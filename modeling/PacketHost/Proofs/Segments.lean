import PacketHost.Proofs.Decision
import PacketHost.Proofs.WellFormed

/-!
Segments as they are sent, and the answer to a segment without data.

Whatever a segment answers, it is sent under the header that stands in the buffer, and that header
goes out as it is but for its checksum (`carriesTcp_sent`). So what a control reply is can be read
off the header that is written for it. The peer's nine flags come back in it, under a data offset
and reserved bits of the host's own.
-/

namespace PacketHost

open Bytes Received

/-! ### The header of a control reply -/

namespace TcpHeader

/-- The three bits between the data offset and the flags. -/
def reserved (h : TcpHeader) : UInt16 := h.offsetAndFlags &&& 0x0E00

variable (h : TcpHeader)

lemma or_ack_and_mask (w : UInt16) :
    (w ||| TcpFlag.ack) &&& TcpFlag.mask = (w &&& TcpFlag.mask) ||| TcpFlag.ack := by
  refine UInt16.toNat.inj ?_
  simp only [UInt16.toNat_and, UInt16.toNat_or, Nat.and_or_distrib_right]
  rfl

/-- Nine bits under an offset of five words. -/
lemma fiveWords_or {w : UInt16} (hw : w &&& TcpFlag.mask = w) :
    (0x5000 ||| w) &&& TcpFlag.mask = w ∧ (0x5000 ||| w) &&& 0x0E00 = 0 ∧
      (0x5000 ||| w) >>> 12 = 5 := by
  have hbits : ∀ n < 512, (0x5000 ||| UInt16.ofNat n) &&& TcpFlag.mask = UInt16.ofNat n ∧
      (0x5000 ||| UInt16.ofNat n) &&& 0x0E00 = 0 ∧ (0x5000 ||| UInt16.ofNat n) >>> 12 = 5 := by
    decide +kernel
  have hlt : w.toNat < 512 := by
    have hle : w.toNat &&& 511 ≤ 511 := Nat.and_le_right
    have hnat : w.toNat &&& 511 = w.toNat := congrArg UInt16.toNat hw
    omega
  have hword := hbits w.toNat hlt
  rwa [UInt16.ofNat_toNat] at hword

lemma offsetAndFlags_controlReply :
    h.controlReply.offsetAndFlags =
      0x5000 ||| if h.has TcpFlag.syn then h.flags ||| TcpFlag.ack else h.flags := by
  have hflags : h.swapForReply.flags = h.flags := rfl
  have hsyn : h.swapForReply.has TcpFlag.syn = h.has TcpFlag.syn := rfl
  have hadvanced (n : Nat) :
      (h.swapForReply.advanceAck n).has TcpFlag.syn = h.has TcpFlag.syn := rfl
  unfold controlReply
  dsimp only
  split <;> simp only [hsyn, hadvanced] <;> split
  · exact congrArg _ (or_ack_and_mask _)
  · rfl
  · exact congrArg _ (or_ack_and_mask _)
  · rfl

lemma flags_and_mask : h.flags &&& TcpFlag.mask = h.flags := by
  rw [flags, UInt16.and_assoc, UInt16.and_self]

lemma answeredFlags_and_mask :
    (if h.has TcpFlag.syn then h.flags ||| TcpFlag.ack else h.flags) &&& TcpFlag.mask =
      if h.has TcpFlag.syn then h.flags ||| TcpFlag.ack else h.flags := by
  split
  · rw [or_ack_and_mask, flags_and_mask]
  · exact h.flags_and_mask

lemma flags_controlReply :
    h.controlReply.flags = if h.has TcpFlag.syn then h.flags ||| TcpFlag.ack else h.flags := by
  rw [flags, offsetAndFlags_controlReply]
  exact (fiveWords_or h.answeredFlags_and_mask).1

lemma reserved_controlReply : h.controlReply.reserved = 0 := by
  rw [reserved, offsetAndFlags_controlReply]
  exact (fiveWords_or h.answeredFlags_and_mask).2.1

lemma dataOffset_controlReply : h.controlReply.dataOffset = 20 := by
  rw [dataOffset, offsetAndFlags_controlReply, (fiveWords_or h.answeredFlags_and_mask).2.2]
  rfl

lemma ack_controlReply :
    h.controlReply.ack = if h.flags = TcpFlag.ack then h.seq else h.seq + 1 := by
  have hflags : h.swapForReply.flags = h.flags := rfl
  unfold controlReply
  dsimp only
  rw [hflags]
  split <;> split <;> rfl

/-- What is left of the header is what has been received, with the two ends exchanged. -/
lemma controlReply_eq :
    h.controlReply =
      { h.swapForReply with
        ack := h.controlReply.ack
        offsetAndFlags := h.controlReply.offsetAndFlags } := by
  unfold controlReply
  dsimp only
  split <;> split <;> rfl

end TcpHeader

/-! ### Segments as they are sent -/

/-- A frame with a segment in it that verifies: the header but for its checksum, and the bytes
behind it. -/
structure SentSegment (header : TcpHeader) (rest reply : Bytes) : Prop where
  length_eq : reply.length = transportOffset + 20 + rest.length
  protocol : (ip reply).protocol = IpProtocol.tcp
  totalLength : (ip reply).totalLength.toNat = 20 + 20 + rest.length
  header : tcp reply = { header with checksum := (tcp reply).checksum }
  rest : reply.drop (transportOffset + 20) = rest
  sum : pseudoHeaderChecksum (ip reply).src (ip reply).dst IpProtocol.tcp
    (reply.drop transportOffset) = 0

namespace Frame

variable {s : Settings} {g : Frame} {n : Nat}

/-- Whatever stands behind the outer headers is sent as it is, but for the checksum. -/
lemma sentSegment_addressed (h1 : 20 ≤ n) (h2 : n ≤ 1480) :
    SentSegment (g.get TcpHeader transportOffset)
      (g.slice (transportOffset + 20) (transportOffset + n))
      (((g.summed n).addressed s IpProtocol.tcp n).slice 0 (transportOffset + n)) := by
  have hip : ip (((g.summed n).addressed s IpProtocol.tcp n).slice 0 (transportOffset + n)) =
      (g.get Ipv4Header ipOffset).answer IpProtocol.tcp n := by
    rw [ip_slice _ (Nat.le_add_right _ _), get_ipv4_addressed,
      (g.agreeOn_summed (.inr (Nat.le_add_right _ _))).get_ipv4 (Nat.le_refl 34)]
  have htcp : tcp (((g.summed n).addressed s IpProtocol.tcp n).slice 0 (transportOffset + n)) =
      (g.summed n).get TcpHeader transportOffset := by
    rw [tcp_slice _ (show 54 ≤ 34 + n by omega)]
    exact (agreeOn_addressed s (g.summed n) _).get_eq (Nat.le_refl 34) (Nat.le_refl 54)
  have hbehind {start : Nat} (h : transportOffset ≤ start) :
      (((g.summed n).addressed s IpProtocol.tcp n).slice 0 (transportOffset + n)).drop start =
        (g.summed n).slice start (transportOffset + n) := by
    rw [drop_slice, (agreeOn_addressed s (g.summed n) _).slice_eq h (Nat.le_refl _)]
  have htotal :
      ((g.get Ipv4Header ipOffset).answer IpProtocol.tcp n).totalLength.toNat = 20 + n := by
    show (UInt16.ofNat (20 + n)).toNat = 20 + n
    rw [UInt16.toNat_ofNat']
    omega
  have hrest : (g.slice (transportOffset + 20) (transportOffset + n)).length = n - 20 := by
    rw [length_slice]
    show min (34 + n - 54) (1536 - 54) = n - 20
    omega
  have hlen : (((g.summed n).addressed s IpProtocol.tcp n).slice 0 (transportOffset + n)).length =
      34 + n := by
    rw [length_slice]
    show min (34 + n) 1536 = 34 + n
    omega
  exact {
    length_eq := by
      rw [hlen, hrest]
      show 34 + n = 54 + (n - 20)
      omega
    protocol := by
      rw [hip]
      rfl
    totalLength := by
      rw [hip, htotal, hrest]
      omega
    header := by rw [htcp, get_tcp_summed]
    rest := by
      rw [hbehind (Nat.le_add_right _ _)]
      exact (g.agreeOn_summed (.inl (by decide))).slice_eq (Nat.le_refl _) (Nat.le_refl _)
    sum := by
      rw [hip, hbehind (Nat.le_refl _)]
      exact (pseudoHeaderChecksum_comm ..).trans (sum_summed g (by omega) h2) }

end Frame

/-! ### The answer to a segment without data -/

/-- The answer to a segment that carries nothing for an application. -/
structure AnswersControl (request reply : Bytes) : Prop where
  length_eq : reply.length = 54
  srcPort : (tcp reply).srcPort = (tcp request).dstPort
  dstPort : (tcp reply).dstPort = (tcp request).srcPort
  seq : (tcp reply).seq = (tcp request).ack
  ack : (tcp reply).ack.toNat =
    if (tcp request).flags = TcpFlag.ack then (tcp request).seq.toNat
    else ((tcp request).seq.toNat + 1) % UInt32.size
  flags : (tcp reply).flags =
    if (tcp request).has TcpFlag.syn then (tcp request).flags ||| TcpFlag.ack
    else (tcp request).flags
  dataOffset : (tcp reply).dataOffset = 20
  reserved : (tcp reply).reserved = 0
  window : (tcp reply).window = (tcp request).window
  urgent : (tcp reply).urgent = (tcp request).urgent
  protocol : (ip reply).protocol = IpProtocol.tcp
  totalLength : (ip reply).totalLength.toNat = 40
  sum : pseudoHeaderChecksum (ip reply).src (ip reply).dst IpProtocol.tcp
    (reply.drop transportOffset) = 0

lemma SentSegment.answersControl {request reply : Bytes}
    (h : SentSegment (tcp request).controlReply [] reply) : AnswersControl request reply := by
  have heq := (tcp request).controlReply_eq
  have hheader := h.header
  rw [heq] at hheader
  exact {
    length_eq := h.length_eq
    srcPort := by rw [hheader]; rfl
    dstPort := by rw [hheader]; rfl
    seq := by rw [hheader]; rfl
    ack := by
      rw [hheader]
      dsimp only
      rw [TcpHeader.ack_controlReply]
      split
      · rfl
      · exact UInt32.toNat_add _ _
    flags := by
      rw [← TcpHeader.flags_controlReply, hheader]
      rfl
    dataOffset := by
      rw [← (tcp request).dataOffset_controlReply, hheader]
      rfl
    reserved := by
      rw [← (tcp request).reserved_controlReply, hheader]
      rfl
    window := by rw [hheader]; rfl
    urgent := by rw [hheader]; rfl
    protocol := h.protocol
    totalLength := h.totalLength
    sum := h.sum }

lemma Frame.sentSegment_control {s : Settings} {b : Bytes} {f : Frame} (r : Registry) (turn : Nat)
    (hf : f.Holds b) (h : CarriesSegment s b) (hpsh : (tcp b).has TcpFlag.psh = false) :
    ∃ reply, (f.react s r turn b.length).outgoing? = some reply ∧
      SentSegment (tcp b).controlReply [] reply := by
  refine ⟨_, outgoing?_of_control hf h hpsh, ?_⟩
  have hsent := sentSegment_addressed (s := s) (g := f.controlling b) (Nat.le_refl 20) (by decide)
  have hnone : (f.controlling b).slice (transportOffset + 20) (transportOffset + 20) = [] :=
    List.eq_nil_of_length_eq_zero (by rw [length_slice, Nat.sub_self, Nat.zero_min])
  rwa [hnone, controlling, get_put_tcp] at hsent

/-- **A segment without data is answered by rule**, whatever its flags, options and payload: with
one frame, and without an application. -/
theorem dispatch_answersControl {δ : Type} [Device δ] (h : Host δ) {b : Bytes}
    (hb : b.length ≤ frameSize) (hsegment : CarriesSegment h.settings b)
    (hpsh : (tcp b).has TcpFlag.psh = false) : ∃ reply,
      ((h.holding b).dispatch b.length).device = (Device.send reply h.device).2 ∧
        ((h.holding b).dispatch b.length).deliveries = h.deliveries ∧
          AnswersControl b reply := by
  have hf : (h.frame.write 0 b).Holds b := Frame.holds_write h.frame hb
  obtain ⟨reply, hout, hsent⟩ :=
    Frame.sentSegment_control h.handlers h.deliveries.length hf hsegment hpsh
  have hnone : ∀ c, ¬ Calls h.settings h.handlers b c := by
    intro c hc
    cases hc with
    | segment _ hset =>
      rw [hpsh] at hset
      cases hset
    | datagram hdatagram => exact hdatagram.not_carriesSegment hsegment
  obtain ⟨log, hdispatch⟩ := h.dispatch_eq b
  refine ⟨reply, ?_, ?_, hsent.answersControl⟩
  · rw [hdispatch, Host.reaction, hout]
    rfl
  · rw [hdispatch, Host.reaction, Frame.delivery_of_not_calls hf hnone]
    exact List.append_nil _

/-- A request for a connection to port 7, with an option and two bytes of data. A reserved bit is
set, and the last sequence number is taken. -/
def synSegment : Bytes :=
  [0x02, 0, 0, 0, 0, 0x01, 0x02, 0, 0, 0, 0, 0x02, 0x08, 0x00,
    0x45, 0, 0, 46, 0x12, 0x34, 0, 0, 64, 6, 0, 0, 10, 0, 0, 2, 10, 0, 0, 1,
    0x0f, 0xa0, 0, 7, 0xff, 0xff, 0xff, 0xff, 0, 0, 0, 9, 0x64, 0x02, 0x10, 0, 0, 0, 0, 0,
    0x02, 0x04, 0x05, 0xb4, 0x68, 0x69]

/-- It is acknowledged with a bare header. -/
theorem dispatch_answersControl_synSegment :
    synSegment.length ≤ frameSize ∧ CarriesSegment {} synSegment ∧
      (tcp synSegment).has TcpFlag.psh = false ∧ ∃ reply,
        (((Host.echoing []).holding synSegment).dispatch synSegment.length).device.sent = [reply] ∧
          AnswersControl synSegment reply ∧ (tcp reply).ack = 0 ∧ (tcp reply).flags = 0x12 := by
  have hsegment : CarriesSegment {} synSegment := by decide
  have hpsh : (tcp synSegment).has TcpFlag.psh = false := by decide
  obtain ⟨reply, hsent, -, hanswers⟩ := dispatch_answersControl (Host.echoing [])
    (by decide : synSegment.length ≤ frameSize) hsegment hpsh
  refine ⟨by decide, hsegment, hpsh, reply, ?_, hanswers, ?_, ?_⟩
  · rw [hsent]
    rfl
  · refine UInt32.toNat.inj ?_
    rw [hanswers.ack]
    decide
  · rw [hanswers.flags]
    decide

end PacketHost
