import PacketHost.Proofs.Calls
import PacketHost.Proofs.Requests
import PacketHost.Proofs.Segments
import PacketHost.Proofs.SendPath

/-!
Data sent in answer to a segment, and what it acknowledges.

There is no connection. The buffer keeps the segment that was received last, turned around, and each
answer is written over the one before. So the header in the buffer says how much has been sent so
far (`Staged`): its acknowledgment number is ahead of the peer's sequence number by the lengths of
all payloads, without their padding, or not at all where the local port is a line route. Sending
keeps this up (`Staged.answerTcp`), and a run of sends is a run of such steps (`tcpSends_staged`).
-/

namespace PacketHost

open Bytes Received

namespace Received

variable (r : Registry) (b : Bytes)

/-- The header of a segment, turned around, when `acked` bytes have been sent in answer to it. -/
def answeringHeader (acked : Nat) : TcpHeader :=
  if r.isFramed (tcp b).dstPort then (tcp b).swapForReply
  else (tcp b).swapForReply.advanceAck acked

/-- The options of a segment. -/
def tcpOptions : Bytes := slice b (transportOffset + 20) (transportOffset + (tcp b).dataOffset)

/-- How much data an answer to a segment has room for. -/
def segmentCapacity : Nat := maxFrameLength - (transportOffset + (tcp b).dataOffset + 1)

/-- A byte of padding has room, too. -/
lemma le_segmentCapacity_iff {b : Bytes} {len : Nat} :
    len ≤ segmentCapacity b ↔ transportOffset + (tcp b).dataOffset + len < maxFrameLength := by
  have hle := (tcp b).dataOffset_le
  show len ≤ 1514 - (34 + (tcp b).dataOffset + 1) ↔ 34 + (tcp b).dataOffset + len < 1514
  omega

end Received

/-- A frame with data in answer to a segment: with it, `acked` bytes have been sent in all. -/
structure CarriesData (r : Registry) (request : Bytes) (acked : Nat) (data reply : Bytes) :
    Prop where
  srcPort : (tcp reply).srcPort = (tcp request).dstPort
  dstPort : (tcp reply).dstPort = (tcp request).srcPort
  seq : (tcp reply).seq = (tcp request).ack
  ack : (tcp reply).ack.toNat =
    if r.isFramed (tcp request).dstPort then (tcp request).seq.toNat
    else ((tcp request).seq.toNat + acked) % UInt32.size
  offsetAndFlags : (tcp reply).offsetAndFlags = (tcp request).offsetAndFlags
  window : (tcp reply).window = (tcp request).window
  urgent : (tcp reply).urgent = (tcp request).urgent
  options : tcpOptions reply = tcpOptions request
  payload : reply.drop (transportOffset + (tcp request).dataOffset) =
    if data.length % 2 = 0 then data else data ++ [0]
  protocol : (ip reply).protocol = IpProtocol.tcp
  totalLength : (ip reply).totalLength.toNat =
    20 + (tcp request).dataOffset + evenLength data.length
  sum : pseudoHeaderChecksum (ip reply).src (ip reply).dst IpProtocol.tcp
    (reply.drop transportOffset) = 0

/-! ### The header that is kept -/

namespace TcpHeader

variable (h : TcpHeader) (m n : Nat)

lemma advanceAck_zero : h.advanceAck 0 = h := by
  have hack : h.ack + UInt32.ofNat 0 = h.ack := UInt32.add_zero _
  rw [advanceAck, hack]

lemma advanceAck_advanceAck : (h.advanceAck m).advanceAck n = h.advanceAck (m + n) := by
  simp only [advanceAck, UInt32.ofNat_add, UInt32.add_assoc]

lemma dataOffset_congr {h k : TcpHeader} (heq : h.offsetAndFlags = k.offsetAndFlags) :
    h.dataOffset = k.dataOffset := by
  rw [dataOffset, dataOffset, heq]

end TcpHeader

section Header

variable (r : Registry) (b : Bytes) (m n : Nat)

lemma answeringHeader_zero : answeringHeader r b 0 = (tcp b).swapForReply := by
  rw [answeringHeader, TcpHeader.advanceAck_zero, ite_self]

/-- Nothing but the acknowledgment number depends on what has been sent. -/
lemma answeringHeader_eq :
    answeringHeader r b m =
      { (tcp b).swapForReply with ack := (answeringHeader r b m).ack } := by
  unfold answeringHeader
  split <;> rfl

lemma srcPort_answeringHeader : (answeringHeader r b m).srcPort = (tcp b).dstPort :=
  congrArg TcpHeader.srcPort (answeringHeader_eq r b m)

lemma offsetAndFlags_answeringHeader :
    (answeringHeader r b m).offsetAndFlags = (tcp b).offsetAndFlags := by
  rw [answeringHeader_eq]
  rfl

/-- The route is looked up under the port that the header has as its source by now. -/
lemma answeringHeader_add :
    (if r.isFramed (answeringHeader r b m).srcPort then answeringHeader r b m
      else (answeringHeader r b m).advanceAck n) = answeringHeader r b (m + n) := by
  rw [srcPort_answeringHeader]
  unfold answeringHeader
  split
  · rfl
  · exact TcpHeader.advanceAck_advanceAck _ m n

lemma ack_answeringHeader :
    (answeringHeader r b m).ack.toNat =
      if r.isFramed (tcp b).dstPort then (tcp b).seq.toNat
      else ((tcp b).seq.toNat + m) % UInt32.size := by
  unfold answeringHeader
  split
  · rfl
  · show ((tcp b).seq + UInt32.ofNat m).toNat = _
    rw [UInt32.toNat_add, UInt32.toNat_ofNat', Nat.add_mod_mod]

end Header

/-- A segment sent under the header that is kept carries its data. -/
lemma SentSegment.carriesData {r : Registry} {request data reply : Bytes} {acked : Nat}
    {sum : UInt16} (hoff : 20 ≤ (tcp request).dataOffset)
    (hoptions : (tcpOptions request).length = (tcp request).dataOffset - 20)
    (h : SentSegment { answeringHeader r request acked with checksum := sum }
      (tcpOptions request ++ padded data) reply) : CarriesData r request acked data reply := by
  have hheader := h.header
  have hreplyOffset : (tcp reply).dataOffset = (tcp request).dataOffset :=
    TcpHeader.dataOffset_congr ((congrArg TcpHeader.offsetAndFlags hheader).trans
      (offsetAndFlags_answeringHeader r request acked))
  have hrest : reply.drop (transportOffset + 20) = tcpOptions request ++ padded data := h.rest
  rw [answeringHeader_eq] at hheader
  exact {
    srcPort := by rw [hheader]; rfl
    dstPort := by rw [hheader]; rfl
    seq := by rw [hheader]; rfl
    ack := by
      rw [hheader]
      exact ack_answeringHeader r request acked
    offsetAndFlags := by rw [hheader]; rfl
    window := by rw [hheader]; rfl
    urgent := by rw [hheader]; rfl
    options := by
      have hlen : transportOffset + (tcp request).dataOffset - (transportOffset + 20) =
          (tcpOptions request).length := by
        rw [hoptions, Nat.add_sub_add_left]
      rw [tcpOptions, hreplyOffset, slice, hrest, hlen, List.take_left]
    payload := by
      have hdrop : transportOffset + (tcp request).dataOffset =
          transportOffset + 20 + (tcpOptions request).length := by
        rw [hoptions]
        omega
      rw [hdrop, ← List.drop_drop, hrest, List.drop_left, padded]
    protocol := h.protocol
    totalLength := by
      rw [h.totalLength, List.length_append, hoptions, length_padded]
      omega
    sum := h.sum }

/-! ### The buffer between two answers -/

namespace Frame

variable {s : Settings} {r : Registry} {turn : Nat} {b : Bytes} {f g : Frame} {acked : Nat}

/-- The buffer holds a segment, turned around, in answer to which `acked` bytes have been sent. -/
structure Staged (r : Registry) (b : Bytes) (acked : Nat) (f : Frame) : Prop where
  packet : f.holdsPacket IpProtocol.tcp = true
  header : f.get TcpHeader transportOffset =
    { answeringHeader r b acked with
      checksum := (f.get TcpHeader transportOffset).checksum }
  options_eq : f.slice (transportOffset + 20) (transportOffset + (tcp b).dataOffset) = tcpOptions b

/-- Behind the header of a segment that is prepared come the options of the one in the frame, and
the data. -/
lemma slice_segment {offset len : Nat}
    (hoffset : (f.get TcpHeader transportOffset).dataOffset = offset) (hoff : 20 ≤ offset)
    (hlen : transportOffset + offset + len < frameSize) :
    (f.segment r len).slice (transportOffset + 20) (transportOffset + (offset + evenLength len)) =
      f.slice (transportOffset + 20) (transportOffset + offset) ++
        padded (f.slice (transportOffset + offset) (transportOffset + offset + len)) := by
  have hbehind : AgreeOn (transportOffset + 20) (transportOffset + offset + evenLength len)
      (f.segment r len) (f.padEven (transportOffset + offset) len) := by
    rw [Frame.segment, hoffset]
    exact agreeOn_put (.inl (Nat.le_refl _))
  have hoptions : AgreeOn (transportOffset + 20) (transportOffset + offset)
      (f.padEven (transportOffset + offset) len) f :=
    agreeOn_padEven f (Nat.le_add_right _ _)
  rw [← Nat.add_assoc, ← slice_append_slice _ (Nat.add_le_add_left hoff _) (Nat.le_add_right _ _),
    hbehind.slice_eq (Nat.le_refl _) (Nat.le_add_right _ _),
    hbehind.slice_eq (Nat.add_le_add_left hoff _) (Nat.le_refl _),
    hoptions.slice_eq (Nat.le_refl _) (Nat.le_refl _), slice_padEven f hlen]

lemma holdsPacket_congr {protocol : UInt8} (h : AgreeOn 0 transportOffset g f) :
    g.holdsPacket protocol = f.holdsPacket protocol := by
  rw [holdsPacket, holdsPacket, h.get_ethernet (by decide), h.get_ipv4 (Nat.le_refl 34)]

namespace Staged

lemma dataOffset_eq (h : Staged r b acked f) :
    (f.get TcpHeader transportOffset).dataOffset = (tcp b).dataOffset :=
  TcpHeader.dataOffset_congr ((congrArg TcpHeader.offsetAndFlags h.header).trans
    (offsetAndFlags_answeringHeader r b acked))

/-- What stands behind the header is nothing to it. -/
lemma congr (h : Staged r b acked f) (hoff : 20 ≤ (tcp b).dataOffset)
    (hg : AgreeOn 0 (transportOffset + (tcp b).dataOffset) g f) : Staged r b acked g where
  packet := by
    rw [holdsPacket_congr (hg.mono (Nat.le_refl 0) (Nat.le_add_right _ _))]
    exact h.packet
  header := by
    rw [(hg.mono (Nat.le_refl 0) (Nat.add_le_add_left hoff _)).get_tcp (Nat.le_refl 54)]
    exact h.header
  options_eq := by
    rw [hg.slice_eq (Nat.zero_le _) (Nat.le_refl _)]
    exact h.options_eq

end Staged

section Step

variable {len : Nat}

/-- Data is accounted for in the header that it is sent under. -/
lemma Staged.segment (h : Staged r b acked f) (len : Nat) :
    Staged r b (acked + len) (f.segment r len) := by
  have hheader : (f.segment r len).get TcpHeader transportOffset =
      { answeringHeader r b (acked + len) with
        checksum := (f.get TcpHeader transportOffset).checksum } := by
    have hkept := h.header
    generalize (f.get TcpHeader transportOffset).checksum = sum at hkept ⊢
    rw [Frame.segment, get_put_tcp, hkept, ← answeringHeader_add]
    dsimp only
    split <;> rfl
  refine ⟨?_, ?_, ?_⟩
  · rw [holdsPacket_congr (agreeOn_segment r f)]
    exact h.packet
  · rw [hheader]
  · have hagree : AgreeOn (transportOffset + 20) (transportOffset + (tcp b).dataOffset)
        (f.segment r len) f := by
      rw [Frame.segment]
      refine (agreeOn_put (α := TcpHeader) (.inl (Nat.le_refl _))).trans (agreeOn_padEven f ?_)
      rw [h.dataOffset_eq]
      exact Nat.le_add_right _ _
    rw [hagree.slice_eq (Nat.le_refl _) (Nat.le_refl _)]
    exact h.options_eq

/-- A packet that has been sent is still there, turned around once more. -/
lemma Staged.addressed (h : Staged r b acked f) (n : Nat) :
    Staged r b acked ((f.summed n).addressed s IpProtocol.tcp n) := by
  have houter : AgreeOn 0 transportOffset (f.summed n) f :=
    f.agreeOn_summed (.inr (Nat.le_add_right _ _))
  have htcp : ((f.summed n).addressed s IpProtocol.tcp n).get TcpHeader transportOffset =
      (f.summed n).get TcpHeader transportOffset :=
    (agreeOn_addressed s (f.summed n) (transportOffset + 20)).get_eq (Nat.le_refl _) (Nat.le_refl _)
  refine ⟨?_, ?_, ?_⟩
  · have hpacket := h.packet
    simp only [holdsPacket, Bool.and_eq_true, beq_iff_eq] at hpacket ⊢
    rw [get_ethernet_addressed, get_ipv4_addressed, houter.get_ethernet (by decide)]
    exact ⟨⟨hpacket.1.1, rfl⟩, rfl⟩
  · rw [htcp, get_tcp_summed, h.header]
  · rw [(agreeOn_addressed s (f.summed n) _).slice_eq (Nat.le_add_right _ _) (Nat.le_refl _),
      (f.agreeOn_summed (.inl (by decide))).slice_eq (Nat.le_refl _) (Nat.le_refl _)]
    exact h.options_eq

lemma Staged.length_options (h : Staged r b acked f) :
    (tcpOptions b).length = (tcp b).dataOffset - 20 := by
  have hle := (tcp b).dataOffset_le
  rw [← h.options_eq, length_slice]
  show min (34 + (tcp b).dataOffset - 54) (1536 - 54) = (tcp b).dataOffset - 20
  omega

/-- Behind the header of an answer come the options as they were received, and the data. -/
lemma Staged.slice_segment (h : Staged r b acked f) (hoff : 20 ≤ (tcp b).dataOffset)
    (hlen : transportOffset + (tcp b).dataOffset + len < frameSize) :
    (f.segment r len).slice (transportOffset + 20)
      (transportOffset + ((tcp b).dataOffset + evenLength len)) =
        tcpOptions b ++ padded (f.slice (transportOffset + (tcp b).dataOffset)
          (transportOffset + (tcp b).dataOffset + len)) := by
  rw [Frame.slice_segment h.dataOffset_eq hoff hlen, h.options_eq]

/-- What stands behind the header is sent, and accounted for. -/
lemma Staged.answerTcp (h : Staged r b acked f) (hoff : 20 ≤ (tcp b).dataOffset)
    (hlen : len ≤ segmentCapacity b) : ∃ g,
      f.answerTcp s r len =
          ⟨g, .ok (transportOffset + ((tcp b).dataOffset + evenLength len))⟩ ∧
        Staged r b (acked + len) g ∧
        CarriesData r b (acked + len)
          (f.slice (transportOffset + (tcp b).dataOffset)
            (transportOffset + (tcp b).dataOffset + len))
          (g.bytes.take (transportOffset + ((tcp b).dataOffset + evenLength len))) := by
  have heven := evenLength_le len
  have hroom : 34 + (tcp b).dataOffset + len < 1514 := le_segmentCapacity_iff.1 hlen
  have hsegment := h.segment len
  refine ⟨_, answerTcp_of_lt s r f h.dataOffset_eq hoff hroom, hsegment.addressed _, ?_⟩
  have hsent := sentSegment_addressed (s := s) (g := f.segment r len)
    (n := (tcp b).dataOffset + evenLength len) (by omega) (by omega)
  rw [hsegment.header, h.slice_segment hoff (show 34 + (tcp b).dataOffset + len < 1536 by omega)]
    at hsent
  rw [take_bytes]
  exact hsent.carriesData hoff h.length_options

/-- Too much data is refused, and leaves the buffer alone. -/
lemma Staged.sendTcp_of_lt (h : Staged r b acked f) (hoff : 20 ≤ (tcp b).dataOffset) {data : Bytes}
    (hlen : segmentCapacity b < data.length) :
    f.sendTcp s r data =
      ⟨f, .error (.payloadTooLarge data.length (segmentCapacity b))⟩ := by
  rw [sendTcp, h.dataOffset_eq, h.packet, if_neg (by decide), if_neg (Nat.not_lt.2 hoff)]
  exact if_pos hlen

lemma Staged.sendTcp_of_le (h : Staged r b acked f) (hoff : 20 ≤ (tcp b).dataOffset) {data : Bytes}
    (hlen : data.length ≤ segmentCapacity b) : ∃ g n,
      f.sendTcp s r data = ⟨g, .ok n⟩ ∧ Staged r b (acked + data.length) g ∧
        CarriesData r b (acked + data.length) data (g.bytes.take n) := by
  have hfit : transportOffset + (tcp b).dataOffset + data.length ≤ frameSize :=
    Nat.le_trans (Nat.le_of_lt (le_segmentCapacity_iff.1 hlen)) (by decide)
  have hwritten : Staged r b acked (f.write (transportOffset + (tcp b).dataOffset) data) :=
    h.congr hoff (agreeOn_write (.inr (Nat.le_refl _)))
  obtain ⟨g, hanswer, hstaged, hcarries⟩ := hwritten.answerTcp (s := s) hoff hlen
  rw [slice_write_self hfit] at hcarries
  refine ⟨g, _, ?_, hstaged, hcarries⟩
  rw [sendTcp, h.dataOffset_eq, h.packet, if_neg (by decide), if_neg (Nat.not_lt.2 hoff)]
  exact (if_neg (Nat.not_lt.2 hlen)).trans hanswer

end Step

/-! ### The application's own answer -/

lemma staged_offeringSegment (hf : f.Holds b) (h : CarriesSegment s b) :
    Staged r b 0 (f.offeringSegment b) where
  packet := by
    rw [← h.protocol]
    exact holdsPacket_of_agreeOn hf h.toAccepted (agreeOn_offeringSegment h.toAccepted)
  header := by
    rw [answeringHeader_zero, offeringSegment, get_put_tcp]
  options_eq := by
    have hend : transportOffset + (tcp b).dataOffset ≤ ipOffset + packetLength b := by
      rw [← h.toAccepted.end_eq]
      exact Nat.add_le_add_left h.offset_le _
    have hagree : AgreeOn (transportOffset + 20) (transportOffset + (tcp b).dataOffset)
        (f.offeringSegment b) (f.ended b) :=
      agreeOn_put (.inl (Nat.le_refl _))
    rw [hagree.slice_eq (Nat.le_refl _) (Nat.le_refl _), slice_ended hf h.toAccepted hend,
      tcpOptions]

end Frame

lemma Frame.slice_turned (f : Frame) (c : Call) (turn : Nat) {len : Nat}
    (hlen : c.start + len ≤ maxFrameLength) :
    (f.turned c turn).slice c.start (c.start + len) =
      ((f.exchange c).after turn c.handler).region.take len := by
  have hsize := f.length_region_turned c turn
  have hstop : c.start + ((f.exchange c).after turn c.handler).region.length ≤ frameSize := by
    have hfit : maxFrameLength ≤ frameSize := by decide
    omega
  have hregion : (f.turned c turn).slice c.start
      (c.start + ((f.exchange c).after turn c.handler).region.length) =
        ((f.exchange c).after turn c.handler).region :=
    slice_write_self hstop
  conv => rhs; rw [← hregion]
  simp only [slice, Bytes.slice, List.take_take, Nat.add_sub_cancel_left]
  congr 1
  omega

/-- The answer that an exchange has come to. -/
def Exchange.answer? (x : Exchange) : Option Bytes := x.reply.map fun len => x.region.take len

namespace Exchange

lemma performAll_append (x : Exchange) (as bs : List Action) :
    (x.performAll (as ++ bs)).2 = ((x.performAll as).2.performAll bs).2 := by
  induction as generalizing x with
  | nil => rfl
  | cons a as ih => exact ih _

lemma answer?_of_reply (x : Exchange) (as : List Action) {data : Bytes}
    (h : data.length ≤ x.capacity) :
    (x.performAll (as ++ [.reply data])).2.answer? = some data := by
  rw [performAll_append]
  rw [← x.capacity_performAll as] at h
  generalize (x.performAll as).2 = y at h
  have hroom : data.length ≤ (y.region.take y.capacity).length := by
    rw [List.length_take]
    exact Nat.le_min.2 ⟨h, Nat.le_trans h (Nat.sub_le _ _)⟩
  simp only [performAll, perform, setReply, if_neg (Nat.not_lt.2 h), answer?, Option.map_some,
    write, overwrite_zero hroom, List.append_assoc, List.take_left]

end Exchange

/-- The answer that the application for a segment gives in its turn, if there is one. -/
def Frame.replied (f : Frame) (r : Registry) (turn : Nat) (b : Bytes) : Option Bytes :=
  (r.tcpHandler? (tcp b).dstPort).bind fun handler =>
    ((f.offered b (segmentCall b handler)).after turn handler).answer?

namespace Frame

variable {s : Settings} {r : Registry} {turn : Nat} {b : Bytes} {f g : Frame} {acked : Nat}

section Called

variable {c : Call} (kind : ReplyKind) (answer : Frame → Nat → Prepared)

lemma called_of_none (h : ((f.exchange c).after turn c.handler).reply = none) :
    (Reaction.called kind answer (f.takeTurn c turn)).frame = f.turned c turn ∧
      (Reaction.called kind answer (f.takeTurn c turn)).outgoing? = none := by
  rw [takeTurn, h]
  exact ⟨rfl, rfl⟩

lemma called_of_some {len : Nat} (h : ((f.exchange c).after turn c.handler).reply = some len) :
    (Reaction.called kind answer (f.takeTurn c turn)).frame = (answer (f.turned c turn) len).frame ∧
      (Reaction.called kind answer (f.takeTurn c turn)).outgoing? =
        (answer (f.turned c turn) len).outgoing? := by
  rw [takeTurn, h]
  exact ⟨rfl, rfl⟩

end Called

/-- A segment without an answer is kept, turned around. -/
lemma react_of_replied_none (hf : f.Holds b) (h : CarriesSegment s b)
    (hpsh : (tcp b).has TcpFlag.psh = true) (hnone : f.replied r turn b = none) :
    Staged r b 0 (f.react s r turn b.length).frame ∧
      (f.react s r turn b.length).outgoing? = none := by
  have hoffered : Staged r b 0 (f.offeringSegment b) := staged_offeringSegment hf h
  cases hhandler : r.tcpHandler? (tcp b).dstPort with
  | none =>
    rw [react_of_carriesSegment hf h, if_neg (by simp [hpsh]), hhandler]
    exact ⟨hoffered, rfl⟩
  | some handler =>
    have hreply : ((f.offered b (segmentCall b handler)).after turn handler).reply = none := by
      rw [replied, hhandler] at hnone
      exact Option.map_eq_none_iff.1 hnone
    rw [← exchange_offeringSegment h] at hreply
    obtain ⟨hframe, hout⟩ := called_of_none .tcpData (fun g len => g.answerTcp s r len) hreply
    rw [react_of_segment hf h hpsh hhandler, hframe, hout]
    exact ⟨hoffered.congr h.offset_ge (agreeOn_turned _ _ _ (Nat.le_refl _)), rfl⟩

/-- An answer is sent from where it stands in the region. -/
lemma react_of_replied_some (hf : f.Holds b) (h : CarriesSegment s b)
    (hpsh : (tcp b).has TcpFlag.psh = true) {data : Bytes}
    (hsome : f.replied r turn b = some data) :
    Staged r b data.length (f.react s r turn b.length).frame ∧ ∃ reply,
      (f.react s r turn b.length).outgoing? = some reply ∧
        CarriesData r b data.length data reply := by
  have hoffered : Staged r b 0 (f.offeringSegment b) := staged_offeringSegment hf h
  obtain ⟨handler, hhandler, hanswer⟩ := Option.bind_eq_some_iff.1 hsome
  obtain ⟨len, hreply, hdata⟩ := Option.map_eq_some_iff.1 hanswer
  rw [← exchange_offeringSegment h] at hreply hdata
  have hlt : 34 + (tcp b).dataOffset + len < 1514 := reply_segment_lt hreply
  have hlen : len ≤ segmentCapacity b := le_segmentCapacity_iff.2 hlt
  have hturned : Staged r b 0 ((f.offeringSegment b).turned (segmentCall b handler) turn) :=
    hoffered.congr h.offset_ge (agreeOn_turned _ _ _ (Nat.le_refl _))
  have hslice : ((f.offeringSegment b).turned (segmentCall b handler) turn).slice
      (transportOffset + (tcp b).dataOffset) (transportOffset + (tcp b).dataOffset + len) =
        data :=
    ((f.offeringSegment b).slice_turned (segmentCall b handler) turn (Nat.le_of_lt hlt)).trans hdata
  have hlength : data.length = len := by
    rw [← hslice, length_slice]
    show min (34 + (tcp b).dataOffset + len - (34 + (tcp b).dataOffset))
      (1536 - (34 + (tcp b).dataOffset)) = len
    omega
  subst hlength
  obtain ⟨g, hprepared, hstaged, hcarries⟩ := hturned.answerTcp (s := s) h.offset_ge hlen
  rw [hslice, Nat.zero_add] at hcarries
  rw [Nat.zero_add] at hstaged
  obtain ⟨hframe, hout⟩ := called_of_some .tcpData (fun g len => g.answerTcp s r len) hreply
  rw [react_of_segment hf h hpsh hhandler, hframe, hout, hprepared]
  exact ⟨hstaged, _, rfl, hcarries⟩

end Frame

namespace Host

variable {δ : Type} {b : Bytes}

/-- The answer that the application for a segment gives when it is received. -/
def replied (h : Host δ) (b : Bytes) : Option Bytes :=
  (h.frame.write 0 b).replied h.handlers h.deliveries.length b

/-- The last thing that an application does is to reply. -/
lemma replied_of_reply (h : Host δ) {handler : Handler} {actions : List Action} {payload : Bytes}
    (hhandler : h.handlers.tcpHandler? (tcp b).dstPort = some handler)
    (hactions : handler.respond h.deliveries.length (h.offered b (segmentCall b handler)) =
      actions ++ [.reply payload])
    (hlen : payload.length ≤ segmentCapacity b) : h.replied b = some payload := by
  have hcapacity : (h.offered b (segmentCall b handler)).capacity = segmentCapacity b :=
    (Frame.capacity_exchange _ _).trans (Nat.sub_sub _ _ 1)
  rw [replied, Frame.replied, hhandler, Option.bind_some, Exchange.after]
  change (Exchange.performAll (h.offered b (segmentCall b handler))
    (handler.respond h.deliveries.length (h.offered b (segmentCall b handler)))).2.answer? = _
  rw [hactions]
  exact Exchange.answer?_of_reply _ _ (by rw [hcapacity]; exact hlen)

end Host

/-! ### Runs of sends -/

/-- These frames carry these payloads in turn, `acked` bytes having been sent before. -/
structure CarriesEach (r : Registry) (request : Bytes) (acked : Nat)
    (payloads replies : List Bytes) : Prop where
  length_eq : replies.length = payloads.length
  carries : ∀ (j : Nat) (data reply : Bytes), payloads[j]? = some data → replies[j]? = some reply →
    CarriesData r request (acked + (payloads.take (j + 1)).flatten.length) data reply

namespace CarriesEach

variable {r : Registry} {request data reply : Bytes} {acked : Nat} {payloads replies : List Bytes}

lemma nil : CarriesEach r request acked [] [] := ⟨rfl, by simp⟩

lemma cons (hd : CarriesData r request (acked + data.length) data reply)
    (h : CarriesEach r request (acked + data.length) payloads replies) :
    CarriesEach r request acked (data :: payloads) (reply :: replies) where
  length_eq := by rw [List.length_cons, List.length_cons, h.length_eq]
  carries j data' reply' hdata hreply := by
    cases j with
    | zero =>
      cases hdata
      cases hreply
      simpa using hd
    | succ j =>
      have hlater := h.carries j data' reply' hdata hreply
      rwa [Nat.add_assoc, ← List.length_append, ← List.flatten_cons] at hlater

end CarriesEach

namespace Host

variable {δ : Type} [Device δ]

/-- Answers what has been received last with each of these payloads in turn, and gives what comes of
each call. -/
def tcpSends (h : Host δ) : List Bytes → List (Bytes × Except NetError Unit) × Host δ
  | [] => ([], h)
  | data :: rest =>
    let first := tcpSend data h
    let later := first.2.tcpSends rest
    ((data, first.1) :: later.1, later.2)

/-- What comes of a run of sends from a staged segment: the payloads that there is room for are sent
one after the other, and the others are refused. -/
structure Sends (r : Registry) (b : Bytes) (acked : Nat) (d : δ) (data : List Bytes)
    (run : List (Bytes × Except NetError Unit) × Host δ)
    (sent : List (Bytes × Except String Unit)) : Prop where
  trace : Device.Trace d (sent.map fun x => .send x.1 x.2) run.2.device
  calls : run.1.map (·.1) = data
  accepted : (run.1.filter fun call => decide (call.1.length ≤ segmentCapacity b)).map (·.2) =
    sent.map fun x => x.2.mapError .device
  refused : ∀ call ∈ run.1, segmentCapacity b < call.1.length →
    call.2 = .error (.payloadTooLarge call.1.length (segmentCapacity b))
  carries : CarriesEach r b acked
    (data.filter fun payload => decide (payload.length ≤ segmentCapacity b)) (sent.map (·.1))

variable {b : Bytes} {acked : Nat}

lemma tcpSend_of_error (h : Host δ) {data : Bytes} {g : Frame} {e : NetError}
    (hp : h.frame.sendTcp h.settings h.handlers data = ⟨g, .error e⟩) :
    tcpSend data h = (.error e, { h with frame := g }) := by
  rw [tcpSend, Task.get_bind, hp]
  rfl

lemma tcpSend_of_ok (h : Host δ) {data : Bytes} {g : Frame} {n : Nat}
    (hp : h.frame.sendTcp h.settings h.handlers data = ⟨g, .ok n⟩) :
    tcpSend data h =
      ((Device.send (g.bytes.take n) h.device).1.mapError .device,
        { h with frame := g, device := (Device.send (g.bytes.take n) h.device).2 }) := by
  rw [tcpSend, Task.get_bind, hp]
  rfl

namespace Sends

variable {r : Registry} {d : δ} {data : Bytes} {rest : List Bytes}
  {run : List (Bytes × Except NetError Unit) × Host δ} {sent : List (Bytes × Except String Unit)}

lemma nil (h : Host δ) : Sends r b acked h.device [] ([], h) [] where
  trace := .nil _
  calls := rfl
  accepted := rfl
  refused _ hcall := absurd hcall List.not_mem_nil
  carries := .nil

/-- A refused payload might as well not have been there. -/
lemma refuse (hlen : segmentCapacity b < data.length) (hrun : Sends r b acked d rest run sent) :
    Sends r b acked d (data :: rest)
      ((data, .error (.payloadTooLarge data.length (segmentCapacity b))) :: run.1, run.2) sent where
  trace := hrun.trace
  calls := by rw [List.map_cons, hrun.calls]
  accepted := by
    rw [List.filter_cons_of_neg (by simpa using hlen)]
    exact hrun.accepted
  refused call hcall hlt := by
    rcases List.mem_cons.1 hcall with rfl | hlater
    · rfl
    · exact hrun.refused call hlater hlt
  carries := by
    rw [List.filter_cons_of_neg (by simpa using hlen)]
    exact hrun.carries

lemma accept {frame : Bytes} (hlen : data.length ≤ segmentCapacity b)
    (hcarries : CarriesData r b (acked + data.length) data frame)
    (hrun : Sends r b (acked + data.length) (Device.send frame d).2 rest run sent) :
    Sends r b acked d (data :: rest)
      ((data, (Device.send frame d).1.mapError .device) :: run.1, run.2)
      ((frame, (Device.send frame d).1) :: sent) where
  trace := .send frame hrun.trace
  calls := by rw [List.map_cons, hrun.calls]
  accepted := by
    rw [List.filter_cons_of_pos (by simpa using hlen), List.map_cons, hrun.accepted]
    rfl
  refused call hcall hlt := by
    rcases List.mem_cons.1 hcall with rfl | hlater
    · exact absurd hlen (Nat.not_le.2 hlt)
    · exact hrun.refused call hlater hlt
  carries := by
    rw [List.filter_cons_of_pos (by simpa using hlen)]
    exact .cons hcarries hrun.carries

end Sends

/-- Each send finds the buffer as the one before has left it. -/
lemma tcpSends_staged (h : Host δ) (hoff : 20 ≤ (tcp b).dataOffset)
    (hstaged : h.frame.Staged h.handlers b acked) (data : List Bytes) :
    ∃ sent, Sends h.handlers b acked h.device data (h.tcpSends data) sent := by
  induction data generalizing h acked with
  | nil => exact ⟨[], .nil h⟩
  | cons payload rest ih =>
    rw [tcpSends]
    rcases Nat.lt_or_ge (segmentCapacity b) payload.length with hlen | hlen
    · rw [h.tcpSend_of_error (hstaged.sendTcp_of_lt hoff hlen)]
      obtain ⟨sent, hrun⟩ := ih h hstaged
      exact ⟨sent, hrun.refuse hlen⟩
    · obtain ⟨g, n, hsend, hnext, hcarries⟩ := hstaged.sendTcp_of_le (s := h.settings) hoff hlen
      rw [h.tcpSend_of_ok hsend]
      obtain ⟨sent, hrun⟩ := ih
        { h with frame := g, device := (Device.send (g.bytes.take n) h.device).2 } hnext
      exact ⟨_, hrun.accept hlen hcarries⟩

end Host

/-- **Data is sent and acknowledged by rule**, however often a segment is answered: by the
application in its turn or not, and then by the host, payload after payload. -/
theorem tcpSends_carryData {δ : Type} [Device δ] (h : Host δ) {b : Bytes}
    (hb : b.length ≤ frameSize) (hsegment : CarriesSegment h.settings b)
    (hpsh : (tcp b).has TcpFlag.psh = true) (data : List Bytes) :
    let run := ((h.holding b).dispatch b.length).tcpSends data
    let first := (h.replied b).toList
    ∃ sent : List (Bytes × Except String Unit),
      Device.Trace h.device (sent.map fun x => .send x.1 x.2) run.2.device ∧
        CarriesEach h.handlers b 0
          (first ++ data.filter fun payload => decide (payload.length ≤ segmentCapacity b))
          (sent.map (·.1)) ∧
        run.1.map (·.1) = data ∧
        (run.1.filter fun call => decide (call.1.length ≤ segmentCapacity b)).map (·.2) =
          (sent.drop first.length).map (fun x => x.2.mapError .device) ∧
        (∀ call ∈ run.1, segmentCapacity b < call.1.length →
          call.2 = .error (.payloadTooLarge call.1.length (segmentCapacity b))) ∧
        ∀ (handler : Handler) (actions : List Action) (payload : Bytes),
          h.handlers.tcpHandler? (tcp b).dstPort = some handler →
            handler.respond h.deliveries.length (h.offered b (segmentCall b handler)) =
              actions ++ [.reply payload] →
                payload.length ≤ segmentCapacity b → first = [payload] := by
  dsimp only
  have hf : (h.frame.write 0 b).Holds b := Frame.holds_write h.frame hb
  have hreply : ∀ (handler : Handler) (actions : List Action) (payload : Bytes),
      h.handlers.tcpHandler? (tcp b).dstPort = some handler →
        handler.respond h.deliveries.length (h.offered b (segmentCall b handler)) =
          actions ++ [.reply payload] →
            payload.length ≤ segmentCapacity b → (h.replied b).toList = [payload] := by
    intro handler actions payload hhandler hactions hlen
    rw [h.replied_of_reply hhandler hactions hlen]
    rfl
  obtain ⟨log, hdispatch⟩ := h.dispatch_eq b
  generalize (h.holding b).dispatch b.length = h' at hdispatch ⊢
  have hhandlers : h'.handlers = h.handlers := by rw [hdispatch]
  have hframe : h'.frame = (h.reaction b).frame := by rw [hdispatch]
  have hdevice : h'.device = Device.handed h.device (h.reaction b).outgoing? := by rw [hdispatch]
  have hrun {acked : Nat} (hstaged : (h.reaction b).frame.Staged h.handlers b acked) :
      ∃ sent, Host.Sends h.handlers b acked (Device.handed h.device (h.reaction b).outgoing?) data
        (h'.tcpSends data) sent := by
    rw [← hhandlers, ← hdevice]
    rw [← hhandlers, ← hframe] at hstaged
    exact h'.tcpSends_staged hsegment.offset_ge hstaged data
  cases hreplied : h.replied b with
  | none =>
    obtain ⟨hstaged, hout⟩ := Frame.react_of_replied_none hf hsegment hpsh hreplied
    obtain ⟨sent, hsends⟩ := hrun hstaged
    rw [Host.reaction, hout] at hsends
    rw [hreplied] at hreply
    exact ⟨sent, hsends.trace, hsends.carries, hsends.calls, hsends.accepted, hsends.refused,
      hreply⟩
  | some payload =>
    obtain ⟨hstaged, reply, hout, hfirst⟩ :=
      Frame.react_of_replied_some hf hsegment hpsh hreplied
    obtain ⟨sent, hsends⟩ := hrun hstaged
    rw [Host.reaction, hout] at hsends
    rw [hreplied] at hreply
    have hlater := hsends.carries
    rw [← Nat.zero_add payload.length] at hfirst hlater
    exact ⟨(reply, (Device.send reply h.device).1) :: sent, .send reply hsends.trace,
      .cons hfirst hlater, hsends.calls, hsends.accepted, hsends.refused, hreply⟩

/-- Two bytes for port 7 behind an option, two sequence numbers before they start over. -/
def dataSegment : Bytes :=
  [0x02, 0, 0, 0, 0, 0x01, 0x02, 0, 0, 0, 0, 0x02, 0x08, 0x00,
    0x45, 0, 0, 46, 0x12, 0x34, 0, 0, 64, 6, 0, 0, 10, 0, 0, 2, 10, 0, 0, 1,
    0x0f, 0xa0, 0, 7, 0xff, 0xff, 0xff, 0xfe, 0, 0, 0, 9, 0x60, 0x18, 0x10, 0, 0, 0, 0, 0,
    0x02, 0x04, 0x05, 0xb4, 0x68, 0x69]

/-- A new host with an application on that port that replies with three bytes. -/
def Host.replyingOdd : Host MemoryDevice :=
  (Host.new {} {}).register (.replying "odd" [0x6f, 0x64, 0x64]) (.tcp 7 .stream)

/-- The application's three bytes are followed by three more and by one. -/
theorem tcpSends_carryData_dataSegment :
    dataSegment.length ≤ frameSize ∧ CarriesSegment {} dataSegment ∧
      (tcp dataSegment).has TcpFlag.psh = true ∧ ∃ sent : List (Bytes × Except String Unit),
        Device.Trace Host.replyingOdd.device (sent.map fun x => .send x.1 x.2)
            (((Host.replyingOdd.holding dataSegment).dispatch dataSegment.length).tcpSends
              [[1, 2, 3], [4]]).2.device ∧
          CarriesEach Host.replyingOdd.handlers dataSegment 0
            [[0x6f, 0x64, 0x64], [1, 2, 3], [4]] (sent.map (·.1)) := by
  have hlength : dataSegment.length ≤ frameSize := by decide
  have hsegment : CarriesSegment {} dataSegment := by decide
  have hpsh : (tcp dataSegment).has TcpFlag.psh = true := by decide
  have hfit : ([[1, 2, 3], [4]] : List Bytes).filter
      (fun payload => decide (payload.length ≤ segmentCapacity dataSegment)) =
        [[1, 2, 3], [4]] := by
    decide +kernel
  obtain ⟨sent, htrace, hcarries, -, -, -, hfirst⟩ :=
    tcpSends_carryData Host.replyingOdd hlength hsegment hpsh [[1, 2, 3], [4]]
  rw [hfit, hfirst (.replying "odd" [0x6f, 0x64, 0x64]) [] [0x6f, 0x64, 0x64] rfl rfl
    (by decide +kernel)] at hcarries
  exact ⟨hlength, hsegment, hpsh, sent, htrace, hcarries⟩

end PacketHost
