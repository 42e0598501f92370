import PacketHost.Proofs.Polling
import PacketHost.Proofs.TurnedTwice
import PacketHost.Proofs.Validation

/-!
A send that the device refuses, and the same send once more.

The record in the buffer is answered in its place, layer by layer, and the device is asked last.
When it refuses, nothing is put back: the answer stands where the record was (`Frame.Answers`). The
same send then finds the answer, and answers that.
-/

namespace PacketHost

open Bytes Received

/-! ### What a send leaves in the buffer -/

namespace Frame

variable {s : Settings} {r : Registry} {data : Bytes} {t : Transport} {f g : Frame}

/-- An answer leaves as a packet from the address that the packet in the buffer was sent to. -/
lemma slice_addressed (s : Settings) (protocol : UInt8) (f : Frame) {n : Nat} (hn : n ≤ 1480)
    (heth : (f.get EthernetHeader 0).etherType = EtherType.ipv4) :
    (f.addressed s protocol n).slice 0 (transportOffset + n) =
      packet { s with ip := (f.get Ipv4Header ipOffset).dst } (f.get EthernetHeader 0).src protocol
        (f.get Ipv4Header ipOffset).src (f.get Ipv4Header ipOffset).id
        (f.slice transportOffset (transportOffset + n)) := by
  have hout := @outgoing?_packet { s with ip := (f.get Ipv4Header ipOffset).dst } protocol f n hn
    heth rfl
  rw [outgoing?_answerIpv4 _ _ hn] at hout
  exact Option.some.inj hout

lemma stages_addressed {protocol : UInt8} {n : Nat}
    (heth : (f.get EthernetHeader 0).etherType = EtherType.ipv4) :
    (f.addressed s protocol n).Stages protocol := by
  rw [← holdsPacket_iff, holdsPacket, get_ethernet_addressed, get_ipv4_addressed]
  simp [EthernetHeader.turnAround, heth, Ipv4Header.answer, Ipv4Header.withChecksum,
    Ipv4Header.outgoing, Ipv4Header.isPlain]

/-- The padding is counted. -/
lemma agreeOn_padEven_behind {start len stop : Nat} :
    AgreeOn (start + evenLength len) stop (f.padEven start len) f := by
  unfold padEven evenLength
  split
  · exact .refl _ _ _
  next hodd =>
    apply agreeOn_write
    left
    show start + len + 1 ≤ start + (len + len % 2)
    omega

/-- What is asked of the buffer before data is sent. -/
def Admits (f : Frame) (data : Bytes) : Transport → Prop
  | .udp => f.Stages IpProtocol.udp ∧ data.length ≤ 1471
  | .tcp =>
    f.Stages IpProtocol.tcp ∧ 20 ≤ f.stagedOffset ∧ data.length ≤ 1479 - f.stagedOffset

/-- The record in the buffer, answered with this data. -/
def prepare (f : Frame) (s : Settings) (r : Registry) (data : Bytes) : Transport → Prepared
  | .udp => f.sendUdp s data
  | .tcp => f.sendTcp s r data

/-- The buffer with an answer in it, where the answered record has been. The answer could be
answered in its turn. -/
structure Answers (s : Settings) (r : Registry) (data : Bytes) (t : Transport) (f g : Frame) :
    Prop where
  prepare_eq : f.prepare s r data t = ⟨g, .ok (answerTo s r data f.bytes t).length⟩
  holds : g.Holds (answerTo s r data f.bytes t)
  behind : AgreeOn (answerTo s r data f.bytes t).length frameSize g f
  admits : g.Admits data t

lemma holds_of_slice {n : Nat} {a : Bytes} (hn : n ≤ frameSize) (h : g.slice 0 n = a) :
    a.length = n ∧ g.Holds a := by
  have hlen : a.length = n := by
    rw [← h, length_slice]
    exact Nat.min_eq_left hn
  refine ⟨hlen, by rwa [hlen], fun i hi => ?_⟩
  rw [← h, byteAt_slice, if_pos (by omega), Nat.zero_add]

/-- Whatever the transport, what is left to be seen of an answer is its payload. -/
lemma Answers.of_addressed {n : Nat} (hn : n ≤ 1480) (hstages : f.Stages t.protocol)
    (hfront : AgreeOn 0 transportOffset g f)
    (hbehind : AgreeOn (transportOffset + n) frameSize g f)
    (hpayload : g.slice transportOffset (transportOffset + n) = answerPayload s r data f.bytes t)
    (hprepare : f.prepare s r data t =
      ⟨g.addressed s t.protocol n, .ok (transportOffset + n)⟩)
    (hadmits : (g.addressed s t.protocol n).Stages t.protocol →
      (g.addressed s t.protocol n).Admits data t) :
    Answers s r data t f (g.addressed s t.protocol n) := by
  have heth : (g.get EthernetHeader 0).etherType = EtherType.ipv4 := by
    rw [hfront.get_ethernet (by decide)]
    exact hstages.1
  have hslice := slice_addressed s t.protocol g hn heth
  rw [hfront.get_ethernet (by decide), hfront.get_ipv4 (Nat.le_refl 34), hpayload] at hslice
  have hfit : transportOffset + n ≤ frameSize := Nat.le_trans (Nat.add_le_add_left hn _) (by decide)
  obtain ⟨hlen, hholds⟩ := holds_of_slice hfit hslice
  have hlen' : (answerTo s r data f.bytes t).length = transportOffset + n := hlen
  refine ⟨by rw [hprepare, hlen'], hholds, ?_, hadmits (stages_addressed heth)⟩
  rw [hlen']
  exact ((agreeOn_addressed s g frameSize).mono (Nat.le_add_right _ n) (Nat.le_refl _)).trans
    hbehind

/-! ### Datagrams -/

/-- A datagram is put together in front of its data. -/
lemma agreeOn_datagram_data {len stop : Nat} :
    AgreeOn udpDataOffset stop (f.datagram s len) (f.padEven udpDataOffset len) := by
  have hunsummed : AgreeOn udpDataOffset stop (f.unsummed len) (f.padEven udpDataOffset len) :=
    agreeOn_put (.inl (Nat.le_refl 42))
  unfold datagram
  split
  · exact (agreeOn_write (.inl (Nat.le_refl 42))).trans hunsummed
  · exact hunsummed

lemma agreeOn_datagram_behind {len stop : Nat} :
    AgreeOn (transportOffset + (8 + evenLength len)) stop (f.datagram s len) f := by
  rw [← Nat.add_assoc]
  exact (agreeOn_datagram_data.mono (Nat.le_add_right _ _) (Nat.le_refl _)).trans
    agreeOn_padEven_behind

lemma exists_answers_udp (r : Registry) (h : f.Admits data .udp) :
    ∃ g, Answers s r data .udp f g := by
  obtain ⟨hstages, hlen⟩ := h
  have heven := evenLength_le data.length
  have hmod := evenLength_mod_two data.length
  have hfront : AgreeOn 0 transportOffset ((f.write udpDataOffset data).datagram s data.length) f :=
    (agreeOn_datagram s _).trans (agreeOn_write (.inr (by decide)))
  have hwritten : AgreeOn (transportOffset + (8 + evenLength data.length)) frameSize
      (f.write udpDataOffset data) f := by
    apply agreeOn_write
    left
    show 42 + data.length ≤ 34 + (8 + (data.length + data.length % 2))
    omega
  -- the datagram leaves from the address that the one in the buffer was sent to
  have hpayload :=
    slice_datagram (s := { s with ip := (f.get Ipv4Header ipOffset).dst }) (g := f) hlen rfl
  exact ⟨_, .of_addressed (by omega) hstages hfront (agreeOn_datagram_behind.trans hwritten)
    hpayload (sendUdp_of_stages hstages hlen) fun hstages' => ⟨hstages', hlen⟩⟩

/-! ### Segments -/

/-- The segment in the buffer, its checksum filled in. -/
lemma slice_summed (f : Frame) {n : Nat} (h1 : 20 ≤ n) :
    (f.summed n).slice transportOffset (transportOffset + n) =
      summedSegment (f.get Ipv4Header ipOffset).src (f.get Ipv4Header ipOffset).dst
        (f.get TcpHeader transportOffset)
        (f.slice (transportOffset + 20) (transportOffset + n)) := by
  have hwrite (sum : UInt16) : (f.write (transportOffset + 16) (ofWord16 sum)).slice transportOffset
      (transportOffset + n) =
        Wire.encode { f.get TcpHeader transportOffset with checksum := sum } ++
          f.slice (transportOffset + 20) (transportOffset + n) := by
    have hbehind : AgreeOn (transportOffset + 20) (transportOffset + n)
        (f.write (transportOffset + 16) (ofWord16 sum)) f :=
      agreeOn_write (.inl (by show 34 + 16 + 2 ≤ 34 + 20; omega))
    have hheader : (f.write (transportOffset + 16) (ofWord16 sum)).slice transportOffset
        (transportOffset + 20) =
          Wire.encode ((f.write (transportOffset + 16) (ofWord16 sum)).get TcpHeader
            transportOffset) :=
      slice_eq_encode (α := TcpHeader) _ (by decide)
    rw [← slice_append_slice _ (Nat.le_add_right _ 20) (Nat.add_le_add_left h1 _), hheader,
      get_tcp_write_sum, hbehind.slice_eq (Nat.le_refl _) (Nat.le_refl _)]
  have htwice (sum : UInt16) : (f.write (transportOffset + 16) (ofWord16 0)).write
      (transportOffset + 16) (ofWord16 sum) = f.write (transportOffset + 16) (ofWord16 sum) :=
    write_write_inside (k := 0) (Nat.le_refl 2)
  rw [summed, hwrite, htwice, hwrite]
  rfl

lemma get_tcp_segment (r : Registry) (f : Frame) (len : Nat) :
    (f.segment r len).get TcpHeader transportOffset =
      if r.isFramed (f.get TcpHeader transportOffset).srcPort then f.get TcpHeader transportOffset
      else (f.get TcpHeader transportOffset).advanceAck len :=
  get_put_tcp _ _

lemma agreeOn_segment_behind {offset len stop : Nat}
    (hoffset : (f.get TcpHeader transportOffset).dataOffset = offset) (hoff : 20 ≤ offset) :
    AgreeOn (transportOffset + (offset + evenLength len)) stop (f.segment r len) f := by
  have hpad : AgreeOn (transportOffset + offset + evenLength len) stop
      (f.padEven (transportOffset + offset) len) f :=
    agreeOn_padEven_behind
  rw [Nat.add_assoc] at hpad
  rw [Frame.segment, hoffset]
  refine (agreeOn_put (.inl ?_)).trans hpad
  show 34 + 20 ≤ 34 + (offset + evenLength len)
  omega

/-- The header that a segment is sent under, and the data behind it and behind its options. -/
lemma slice_summed_segment (r : Registry) (hoff : 20 ≤ f.stagedOffset)
    (hlen : data.length ≤ 1479 - f.stagedOffset) :
    (((f.write (transportOffset + f.stagedOffset) data).segment r data.length).summed
      (f.stagedOffset + evenLength data.length)).slice transportOffset
        (transportOffset + (f.stagedOffset + evenLength data.length)) =
          answerPayload s r data f.bytes .tcp := by
  have hle := f.stagedOffset_le
  have hroom : transportOffset + f.stagedOffset + data.length < frameSize := by
    show 34 + f.stagedOffset + data.length < 1536
    omega
  have hwrite : AgreeOn 0 (transportOffset + f.stagedOffset)
      (f.write (transportOffset + f.stagedOffset) data) f :=
    agreeOn_write (.inr (Nat.le_refl _))
  have htcp := (hwrite.mono (Nat.le_refl 0) (Nat.add_le_add_left hoff _)).get_tcp (Nat.le_refl 54)
  have hip := ((@agreeOn_segment r _ data.length).trans
    (hwrite.mono (Nat.le_refl 0) (Nat.le_add_right _ _))).get_ipv4 (Nat.le_refl 34)
  have hdata : (f.write (transportOffset + f.stagedOffset) data).slice
      (transportOffset + f.stagedOffset) (transportOffset + f.stagedOffset + data.length) = data :=
    slice_write_self (Nat.le_of_lt hroom)
  have hoptions := hwrite.slice_eq (Nat.zero_le (transportOffset + 20)) (Nat.le_refl _)
  rw [slice_summed _ (Nat.le_trans hoff (Nat.le_add_right _ _)),
    slice_segment (dataOffset_write_staged hoff data) hoff hroom, get_tcp_segment, hip, htcp, hdata,
    hoptions]
  rfl

/-- An answer is as long as what it answers says. -/
lemma stagedOffset_answered (s : Settings) (r : Registry) (f : Frame) (len n : Nat) :
    (((f.segment r len).summed n).addressed s IpProtocol.tcp n).stagedOffset = f.stagedOffset := by
  rw [stagedOffset, (agreeOn_addressed s _ _).get_eq (Nat.le_refl _) (Nat.le_refl (34 + 20)),
    get_tcp_summed, get_tcp_segment]
  apply TcpHeader.dataOffset_congr
  split <;> rfl

lemma exists_answers_tcp (s : Settings) (r : Registry) (h : f.Admits data .tcp) :
    ∃ g, Answers s r data .tcp f g := by
  obtain ⟨hstages, hoff, hlen⟩ := h
  have hle := f.stagedOffset_le
  have heven := evenLength_le data.length
  have hoffset : (f.write (transportOffset + f.stagedOffset) data).stagedOffset =
      f.stagedOffset :=
    dataOffset_write_staged hoff data
  have hfront : AgreeOn 0 transportOffset
      (((f.write (transportOffset + f.stagedOffset) data).segment r data.length).summed
        (f.stagedOffset + evenLength data.length)) f :=
    (agreeOn_summed _ (.inr (Nat.le_add_right _ _))).trans
      ((agreeOn_segment r _).trans (agreeOn_write (.inr (Nat.le_add_right _ _))))
  have hwritten : AgreeOn (transportOffset + (f.stagedOffset + evenLength data.length)) frameSize
      (f.write (transportOffset + f.stagedOffset) data) f := by
    apply agreeOn_write
    left
    show 34 + f.stagedOffset + data.length ≤ 34 + (f.stagedOffset + (data.length + data.length % 2))
    omega
  have hbehind : AgreeOn (transportOffset + (f.stagedOffset + evenLength data.length)) frameSize
      (((f.write (transportOffset + f.stagedOffset) data).segment r data.length).summed
        (f.stagedOffset + evenLength data.length)) f := by
    refine (agreeOn_summed _ (.inl ?_)).trans
      ((agreeOn_segment_behind hoffset hoff).trans hwritten)
    show 34 + 18 ≤ 34 + (f.stagedOffset + evenLength data.length)
    omega
  refine ⟨_, .of_addressed (by omega) hstages hfront hbehind (slice_summed_segment r hoff hlen)
    (sendTcp_of_stages hstages hoff hlen) fun hstages' => ⟨hstages', ?_⟩⟩
  show 20 ≤ stagedOffset (addressed s _ IpProtocol.tcp _) ∧
    data.length ≤ 1479 - stagedOffset (addressed s _ IpProtocol.tcp _)
  rw [stagedOffset_answered, hoffset]
  exact ⟨hoff, hlen⟩

lemma exists_answers (s : Settings) (r : Registry) (h : f.Admits data t) :
    ∃ g, Answers s r data t f g := by
  cases t with
  | udp => exact exists_answers_udp r h
  | tcp => exact exists_answers_tcp s r h

/-! ### A send after a send -/

lemma Admits.answerable (h : f.Admits data t) : Answerable f.bytes t := by
  refine ⟨?_, ?_, ?_⟩
  · rintro rfl
    rw [f.size_eq]
    decide
  · rintro rfl
    exact h.2.1
  · rintro rfl
    rw [f.size_eq]
    exact Nat.le_trans (Nat.add_le_add_left f.stagedOffset_le _) (by decide)

/-- What is reported of data that is not sent. -/
def Refuses (f : Frame) (data : Bytes) : Transport → NetError → Prop
  | .udp => f.UdpRefusal data.length
  | .tcp => f.TcpRefusal data.length

lemma refuses_or_admits (f : Frame) (data : Bytes) (t : Transport) :
    (∃ e, f.Refuses data t e) ∨ f.Admits data t := by
  cases t with
  | udp => exact f.udpRefusal_or data.length
  | tcp => exact f.tcpRefusal_or data.length

lemma prepare_of_refuses {e : NetError} (h : f.Refuses data t e) :
    f.prepare s r data t = ⟨f, .error e⟩ := by
  cases t with
  | udp => exact sendUdp_of_refusal h
  | tcp => exact sendTcp_of_refusal h

/-- What is not refused over the buffer as it stands is up to the device. -/
lemma refused_or_admits (s : Settings) (r : Registry) (f : Frame) (data : Bytes) (t : Transport) :
    (∃ e, (∀ reason, e ≠ .device reason) ∧ f.prepare s r data t = ⟨f, .error e⟩) ∨
      f.Admits data t := by
  rcases f.refuses_or_admits data t with ⟨e, he⟩ | hadmits
  · refine .inl ⟨e, ?_, prepare_of_refuses he⟩
    cases t <;> cases he <;> simp
  · exact .inr hadmits

lemma Admits.length_lt (h : f.Admits data t) : data.length < UInt32.size := by
  cases t with
  | udp => exact Nat.lt_of_le_of_lt h.2 (by decide)
  | tcp => exact Nat.lt_of_le_of_lt (Nat.le_trans h.2.2 (Nat.sub_le _ _)) (by decide)

/-- What stands behind a frame makes no difference to the answer. -/
lemma answerTo_congr {a : Bytes} (hg : g.Holds a) (ha : Answerable a t)
    (hlen : transportOffset ≤ a.length) : answerTo s r data g.bytes t = answerTo s r data a t := by
  have hethernet : ethernet g.bytes = ethernet a := hg.get_ethernet (Nat.le_trans (by decide) hlen)
  have hip : ip g.bytes = ip a := hg.get_ipv4 hlen
  have hpayload : answerPayload s r data g.bytes t = answerPayload s r data a t := by
    cases t with
    | udp =>
      have hudp : udp g.bytes = udp a := hg.get_eq (ha.datagram_le rfl)
      rw [answerPayload, answerPayload, hip, hudp]
    | tcp =>
      have hle := ha.offset_le rfl
      have htcp : tcp g.bytes = tcp a :=
        hg.get_eq (Nat.le_trans (Nat.add_le_add_left (ha.offset_ge rfl) transportOffset) hle)
      have hoptions : tcpOptions g.bytes = tcpOptions a := by
        rw [tcpOptions, htcp]
        exact hg.slice_eq hle
      rw [answerPayload, answerPayload, ackedHeader, ackedHeader, hip, htcp, hoptions]
  rw [answerTo, answerTo, hethernet, hip, hpayload]

lemma Holds.take_eq {a : Bytes} (hg : g.Holds a) : g.bytes.take a.length = a := by
  rw [take_bytes, hg.slice_eq (Nat.le_refl _)]
  exact List.take_length

lemma Answers.outgoing? (h : Answers s r data t f g) :
    (f.prepare s r data t).outgoing? = some (answerTo s r data f.bytes t) := by
  rw [h.prepare_eq]
  exact congrArg some h.holds.take_eq

/-- The answer is answered where the record was, and turned around once more. -/
lemma Answers.again (h : Answers s r data t f g) (hf : f.Admits data t) :
    ∃ g', Answers s r data t g g' ∧
      answerTo s r data g.bytes t = resent s r data (answerTo s r data f.bytes t) t := by
  obtain ⟨g', hg'⟩ := exists_answers s r h.admits
  refine ⟨g', hg', ?_⟩
  rw [answerTo_congr h.holds hf.answerable.answerTo length_le_answerTo,
    answerTo_answerTo s r data hf.answerable]

end Frame

namespace Host

variable {δ : Type} [Device δ]

/-- Sends data in answer to the record in the buffer. -/
def answer (data : Bytes) : Transport → Task δ Unit
  | .udp => udpSend data
  | .tcp => tcpSend data

lemma answer_eq (h : Host δ) (data : Bytes) (t : Transport) :
    answer data t h = finish (h.frame.prepare h.settings h.handlers data t) h := by
  cases t <;> rfl

/-- The same host on another device. -/
def on {δ' : Type} (h : Host δ) (d : δ') : Host δ' := { h with device := d }

/-- A send, and the same send once more over what the first has left in the buffer. Either hands its
frame to whatever device there is. -/
structure Retries (h : Host δ) (t : Transport) (data first second : Bytes) : Prop where
  sends {δ' : Type} [Device δ'] (d : δ') : (h.on d).SendsOnce first (answer data t (h.on d))
  /-- Not the record but the frame is in the buffer, and behind it stands what stood there. -/
  holds : (answer data t h).2.frame.Holds first
  behind : Frame.AgreeOn first.length frameSize (answer data t h).2.frame h.frame
  sendsAgain {δ' : Type} [Device δ'] (d : δ') :
    ((answer data t h).2.on d).SendsOnce second (answer data t ((answer data t h).2.on d))
  length_eq : second.length = first.length

lemma retries_of_admits (h : Host δ) {t : Transport} {data : Bytes}
    (hadmits : h.frame.Admits data t) :
    h.Retries t data (answerTo h.settings h.handlers data h.frame.bytes t)
      (resent h.settings h.handlers data
        (answerTo h.settings h.handlers data h.frame.bytes t) t) := by
  obtain ⟨g, hg⟩ := Frame.exists_answers h.settings h.handlers hadmits
  obtain ⟨g', hg', hagain⟩ := hg.again hadmits
  have hframe : (answer data t h).2 =
      { h with
        frame := g
        device := (Device.send (answerTo h.settings h.handlers data h.frame.bytes t)
          h.device).2 } := by
    rw [answer_eq, finish_eq, hg.outgoing?, hg.prepare_eq]
    rfl
  refine ⟨fun d => ?_, ?_, ?_, fun d => ?_, ?_⟩
  · rw [answer_eq]
    exact sendsOnce_finish hg.outgoing?
  · rw [hframe]
    exact hg.holds
  · rw [hframe]
    exact hg.behind
  · rw [hframe, ← hagain, answer_eq]
    exact sendsOnce_finish hg'.outgoing?
  · exact length_resent _ _ _ hadmits.answerable

end Host

/-- **A send that the device has refused goes out turned around when it is made again.** -/
theorem send_retried {δ : Type} [Device δ] (h : Host δ) (t : Transport) (data : Bytes)
    {reason : String} (hfail : (Host.answer data t h).1 = .error (.device reason)) :
    ∃ first, (Device.send first h.device).1 = .error reason ∧
      h.Retries t data first (resent h.settings h.handlers data first t) ∧
      (resent h.settings h.handlers data first t = first ↔
        Symmetric h.settings h.handlers data first t) := by
  rcases h.frame.refused_or_admits h.settings h.handlers data t with ⟨e, he, hrefused⟩ | hadmits
  · rw [Host.answer_eq, hrefused] at hfail
    cases hfail
    exact absurd rfl (he reason)
  · have hretries := h.retries_of_admits hadmits
    obtain ⟨reason', heq, hrefused⟩ := (hretries.sends h.device).of_error hfail
    cases heq
    exact ⟨_, hrefused, hretries, resent_eq_iff hadmits.length_lt⟩

namespace Host

/-- A new host with a datagram of three bytes pending. The first time that it sends will fail. -/
def unplugging : Host (FaultyDevice MemoryDevice) :=
  Host.new
    { inner := { queue := [oddDatagram] }
      sendPlan := ({} : FaultPlan).failAfter 0 "no carrier" } {}

/-- The same host when it has taken in the datagram. There is no application for it. -/
def unplugged : Host (FaultyDevice MemoryDevice) := unplugging.poll.2

lemma unplugged_state :
    unplugged.frame.Holds oddDatagram ∧ unplugged.settings = {} ∧ unplugged.handlers = {} ∧
      unplugged.device.sendPlan = ({} : FaultPlan).failAfter 0 "no carrier" := by
  have hframe : (unplugging.reaction oddDatagram).frame.slice 0 45 = oddDatagram := by
    decide +kernel
  have hout : (unplugging.reaction oddDatagram).outgoing? = none := by
    decide +kernel
  obtain ⟨log, h', hh', hpoll⟩ :=
    unplugging.poll_of_received (b := oddDatagram) (by decide) rfl
  have hdrained : (Device.receive frameSize h'.device).1 = .ok [] := by
    rw [hh', hout]
    rfl
  have hunplugged : unplugged =
      { h' with device := (Device.receive frameSize h'.device).2 } := by
    rw [unplugged, hpoll, h'.poll_of_drained hdrained]
  rw [hunplugged, hh', hout]
  exact ⟨(Frame.holds_of_slice (by decide) hframe).2, rfl, rfl, rfl⟩

/-- The datagram can be answered with these three bytes. -/
lemma unplugged_admits : unplugged.frame.Admits [0x6f, 0x6e, 0x65] .udp := by
  have hholds := unplugged_state.1
  have hbyte {i : Nat} (hi : i < 45) : unplugged.frame.byte i = byteAt oddDatagram i :=
    hholds.byte_eq i hi
  refine ⟨⟨?_, ?_, ?_⟩, by decide⟩
  · show word16 (unplugged.frame.byte 12) (unplugged.frame.byte 13) = 0x0800
    rw [hbyte (by decide), hbyte (by decide)]
    rfl
  · exact hbyte (by decide)
  · exact hbyte (by decide)

/-- What the datagram is answered with. -/
def unpluggedAnswer : Bytes := answerTo {} {} [0x6f, 0x6e, 0x65] oddDatagram .udp

lemma unplugged_retries : unplugged.Retries .udp [0x6f, 0x6e, 0x65] unpluggedAnswer
    (resent {} {} [0x6f, 0x6e, 0x65] unpluggedAnswer .udp) := by
  obtain ⟨hholds, hsettings, hhandlers, -⟩ := unplugged_state
  have hretries := unplugged.retries_of_admits unplugged_admits
  have hanswerable : Answerable oddDatagram .udp := by
    refine ⟨fun _ => by decide, ?_, ?_⟩
    · intro h
      cases h
    · intro h
      cases h
  rw [hsettings, hhandlers, Frame.answerTo_congr hholds hanswerable (by decide)] at hretries
  exact hretries

lemma unplugged_refuses :
    (answer [0x6f, 0x6e, 0x65] .udp unplugged).1 = .error (.device "no carrier") := by
  have hsent : (Device.send unpluggedAnswer unplugged.device).1 = .error "no carrier" := by
    show (FaultyDevice.send unpluggedAnswer unplugged.device).1 = .error "no carrier"
    rw [FaultyDevice.send, unplugged_state.2.2.2]
    rfl
  have hdone := (unplugged_retries.sends unplugged.device).1
  exact hdone.trans (congrArg (Except.mapError NetError.device) hsent)

end Host

/-- The datagram is answered with three bytes, which are refused, and then with the same three. -/
theorem send_retried_oddDatagram :
    (Host.answer [0x6f, 0x6e, 0x65] .udp Host.unplugged).1 = .error (.device "no carrier") ∧
      ∃ first, (Device.send first Host.unplugged.device).1 = .error "no carrier" ∧
        Host.unplugged.Retries .udp [0x6f, 0x6e, 0x65] first
          (resent {} {} [0x6f, 0x6e, 0x65] first .udp) := by
  obtain ⟨-, hsettings, hhandlers, -⟩ := Host.unplugged_state
  obtain ⟨first, hrefused, hretries, -⟩ :=
    send_retried Host.unplugged .udp [0x6f, 0x6e, 0x65] Host.unplugged_refuses
  rw [hsettings, hhandlers] at hretries
  exact ⟨Host.unplugged_refuses, first, hrefused, hretries⟩

/-- **A refused send does not leave the record as it was**, and made again it does not send what it
was to send. -/
theorem send_not_restored :
    Host.unplugged.frame.Holds oddDatagram ∧
      (Host.answer [0x6f, 0x6e, 0x65] .udp Host.unplugged).1 = .error (.device "no carrier") ∧
      ¬ (Host.answer [0x6f, 0x6e, 0x65] .udp Host.unplugged).2.frame.Holds oddDatagram ∧
      ∃ first second : Bytes, first ≠ second ∧
        (Host.answer [0x6f, 0x6e, 0x65] .udp
          (Host.unplugged.on ({} : MemoryDevice))).2.device.sent = [first] ∧
        (Host.answer [0x6f, 0x6e, 0x65] .udp
          ((Host.answer [0x6f, 0x6e, 0x65] .udp Host.unplugged).2.on
            ({} : MemoryDevice))).2.device.sent = [second] := by
  refine ⟨Host.unplugged_state.1, Host.unplugged_refuses, ?_, Host.unpluggedAnswer,
    resent {} {} [0x6f, 0x6e, 0x65] Host.unpluggedAnswer .udp, ?_, ?_, ?_⟩
  · intro hholds
    have hsame : byteAt Host.unpluggedAnswer 5 = byteAt oddDatagram 5 := by
      rw [← Host.unplugged_retries.holds.byte_eq 5 (by decide), hholds.byte_eq 5 (by decide)]
    revert hsame
    decide
  · decide
  · obtain ⟨-, g, hsent⟩ := Host.unplugged_retries.sends ({} : MemoryDevice)
    rw [hsent]
    rfl
  · obtain ⟨-, g, hsent⟩ := Host.unplugged_retries.sendsAgain ({} : MemoryDevice)
    rw [hsent]
    rfl

end PacketHost
