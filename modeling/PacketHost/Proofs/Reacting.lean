import PacketHost.Proofs.Answer
import PacketHost.Proofs.Demand

/-!
What the reaction to a frame is, demand by demand.

For each thing that a frame can ask for there is an equation (`react_of_asksArp` to
`react_of_carriesDatagram`), and a frame that asks for nothing is met with silence. Everything that
is known of reactions follows from these, without another look at how the frame is taken apart.
-/

namespace PacketHost

open Bytes

namespace Reaction

/-- What goes out of a reaction. -/
def outgoing? (x : Reaction) : Option Bytes :=
  match x.reply with
  | none => none
  | some (_, result) => (Prepared.mk x.frame result).outgoing?

/-- The reaction after an application's turn. -/
def called (kind : ReplyKind) (answer : Frame → Nat → Prepared) :
    Frame × Option Nat × Delivery → Reaction
  | (f, none, d) => { frame := f, delivery := some d }
  | (f, some len, d) => { Reaction.answering kind (answer f len) with delivery := some d }

/-- Nobody is answered, and no application is given a turn. -/
def Silent (x : Reaction) : Prop := x.reply = none ∧ x.delivery = none

lemma Silent.outgoing? {x : Reaction} (h : x.Silent) : x.outgoing? = none := by
  rw [Reaction.outgoing?, h.1]

/-- Nobody is answered, no application is given a turn, and this frame is left in the buffer. -/
def Leaves (x : Reaction) (f : Frame) : Prop := ∃ notes, x = { frame := f, notes }

namespace Leaves

variable {x : Reaction} {f : Frame}

lemma silent (h : x.Leaves f) : x.Silent := by
  obtain ⟨notes, rfl⟩ := h
  exact ⟨rfl, rfl⟩

lemma frame_eq (h : x.Leaves f) : x.frame = f := by
  obtain ⟨notes, rfl⟩ := h
  rfl

end Leaves

variable (kind : ReplyKind)

@[simp] lemma outgoing?_note (x : Reaction) (n : Note) : (x.note n).outgoing? = x.outgoing? := rfl

@[simp] lemma delivery_note (x : Reaction) (n : Note) : (x.note n).delivery = x.delivery := rfl

@[simp] lemma outgoing?_answering (p : Prepared) :
    (Reaction.answering kind p).outgoing? = p.outgoing? := rfl

@[simp] lemma delivery_answering (p : Prepared) : (Reaction.answering kind p).delivery = none := rfl

@[simp] lemma delivery_called (answer : Frame → Nat → Prepared)
    (done : Frame × Option Nat × Delivery) :
    (called kind answer done).delivery = some done.2.2 := by
  obtain ⟨f, len | len, d⟩ := done <;> rfl

@[simp] lemma outgoing?_called (answer : Frame → Nat → Prepared)
    (done : Frame × Option Nat × Delivery) :
    (called kind answer done).outgoing? =
      done.2.1.bind fun len => (answer done.1 len).outgoing? := by
  obtain ⟨f, len | len, d⟩ := done <;> rfl

end Reaction

namespace Icmp

/-- The echo reply to a message that is long enough to be an echo request. -/
def echoed (message : Bytes) : Bytes :=
  let h : IcmpHeader := Wire.decode message 0
  fillChecksum (overwrite message 0
    (Wire.encode { h with type := IcmpHeader.echoReplyType, checksum := 0 }))

lemma echoReply?_eq {message : Bytes} (hlen : 8 ≤ message.length) :
    echoReply? message =
      if byteAt message 0 = IcmpHeader.echoRequestType then some (echoed message) else none := by
  have hparse : (Wire.parse? message : Option IcmpHeader) = some (Wire.decode message 0) :=
    if_pos hlen
  rw [echoReply?, hparse]
  simp only [IcmpHeader.isEchoRequest, beq_iff_eq]
  rfl

@[simp] lemma length_echoed (message : Bytes) : (echoed message).length = message.length := by
  simp [echoed, fillChecksum]

lemma checksum_echoed {message : Bytes} (hlen : 8 ≤ message.length) :
    checksum (echoed message) = 0 := by
  refine checksum_fillChecksum (by rw [length_overwrite]; omega) ?_
  exact congrArg IcmpHeader.checksum (Wire.decode_overwrite _ (show 0 + 8 ≤ _ by omega))

end Icmp

namespace Frame

open Received

variable {s : Settings} {r : Registry} {turn : Nat} {b : Bytes} {f : Frame}

lemma Holds.get_ethernet (hf : f.Holds b) (h : 14 ≤ b.length) :
    f.get EthernetHeader 0 = ethernet b :=
  hf.get_eq h

lemma Holds.get_ipv4 (hf : f.Holds b) (h : 34 ≤ b.length) : f.get Ipv4Header ipOffset = ip b :=
  hf.get_eq h

lemma Holds.get_arp? (hf : f.Holds b) (h : 42 ≤ b.length) :
    f.get? ArpPacket ipOffset b.length = some (arp b) :=
  hf.get?_eq h

lemma Holds.get_ipv4? (hf : f.Holds b) (h : 34 ≤ b.length) :
    f.get? Ipv4Header ipOffset b.length = some (ip b) :=
  hf.get?_eq h

/-- A frame with a header and something behind it is taken apart by its type. -/
lemma react_of_lt (hf : f.Holds b) (h : 14 < b.length) :
    f.react s r turn b.length =
      if (ethernet b).etherType = EtherType.arp then f.readArp s b.length
      else if (ethernet b).etherType = EtherType.ipv4 then f.readIpv4 s r turn b.length
      else { frame := f, notes := [.otherEtherType (ethernet b).etherType] } := by
  rw [react, if_neg (Nat.not_le.2 h), hf.get_ethernet (Nat.le_of_lt h)]

lemma react_of_asksArp (hf : f.Holds b) (h : AsksArp s b) :
    f.react s r turn b.length =
      (Reaction.answering .arp ((f.put ipOffset ((arp b).answer s.mac s.ip)).answerEthernet s
        (ipOffset + 28))).note (.answeringArp (arp b).senderHw (arp b).senderIp) := by
  have hlen := h.length_le
  have hreq : (arp b).isRequestFor s.ip = true := by
    simp [ArpPacket.isRequestFor, ArpPacket.isEthernetIpv4, h.hwType, h.protoType, h.opcode,
      h.target]
  rw [react_of_lt hf (by omega), if_pos h.etherType, readArp, hf.get_arp? hlen]
  dsimp only
  rw [if_pos hreq]
  rfl

/-- The frame with the packet in it ended. -/
def ended (f : Frame) (b : Bytes) : Frame := f.terminate (ipOffset + packetLength b)

lemma react_of_accepted (hf : f.Holds b) (h : Accepted s b) :
    f.react s r turn b.length =
      if (ip b).protocol = IpProtocol.icmp then
        (f.ended b).readIcmp s (packetLength b - 20)
      else if (ip b).protocol = IpProtocol.tcp then
        (f.ended b).readTcp s r turn (ip b) (packetLength b - 20)
      else if (ip b).protocol = IpProtocol.udp then
        (f.ended b).readUdp s r turn (ip b) (packetLength b - 20)
      else { frame := f.ended b, notes := [.otherProtocol (ip b).protocol] } := by
  have hlen := h.length_le
  have hplain : (ip b).isPlain = true := by simp [Ipv4Header.isPlain, h.plain]
  have hcheck : ¬ (s.verifyChecksums = true ∧ (ip b).checksumValid = false) := by
    rintro ⟨hv, hc⟩
    rw [h.checks hv] at hc
    cases hc
  rw [react_of_lt hf (by omega), if_neg (by rw [h.etherType]; decide), if_pos h.etherType,
    readIpv4, hf.get_ipv4? hlen]
  dsimp only
  have hcovers : ¬ min (ip b).totalLength.toNat (b.length - ipOffset) < 20 :=
    Nat.not_lt.2 h.covers
  rw [if_neg (by simp [hplain, h.dst]), if_neg hcheck, if_neg hcovers]
  rfl

lemma agreeOn_ended {start stop : Nat} (h : stop ≤ ipOffset + packetLength b) :
    AgreeOn start stop (f.ended b) f :=
  agreeOn_write (.inr h)

/-- Ending a packet leaves its headers alone. -/
lemma agreeOn_accepted (h : Accepted s b) : AgreeOn 0 transportOffset (f.ended b) f := by
  have := h.covers
  exact agreeOn_ended (show 34 ≤ 14 + packetLength b by omega)

lemma get_ethernet_accepted {g : Frame} (hf : f.Holds b) (h : Accepted s b)
    (hg : AgreeOn 0 transportOffset g f) : g.get EthernetHeader 0 = ethernet b := by
  rw [hg.get_ethernet (by decide), hf.get_ethernet (Nat.le_trans (by decide) h.length_le)]

lemma get_ipv4_accepted {g : Frame} (hf : f.Holds b) (h : Accepted s b)
    (hg : AgreeOn 0 transportOffset g f) : g.get Ipv4Header ipOffset = ip b := by
  rw [hg.get_ipv4 (Nat.le_refl 34), hf.get_ipv4 h.length_le]

lemma get_ended {α : Type} [Wire α] [LawfulWire α] {off : Nat} (hf : f.Holds b)
    (h : Accepted s b) (hoff : off + Wire.width α ≤ ipOffset + packetLength b) :
    (f.ended b).get α off = Wire.decode b off := by
  rw [(agreeOn_ended (Nat.le_refl _)).get_eq (Nat.zero_le _) hoff,
    hf.get_eq (Nat.le_trans hoff h.end_le)]

lemma slice_ended {start stop : Nat} (hf : f.Holds b) (h : Accepted s b)
    (hstop : stop ≤ ipOffset + packetLength b) :
    (f.ended b).slice start stop = Bytes.slice b start stop := by
  rw [(agreeOn_ended (Nat.le_refl _)).slice_eq (Nat.zero_le _) hstop,
    hf.slice_eq (Nat.le_trans hstop h.end_le)]

/-- What becomes of a message is a matter of its length and its first byte. -/
lemma readIcmp_ended (hf : f.Holds b) (h : Accepted s b) :
    (f.ended b).readIcmp s (packetLength b - 20) =
      if packetLength b < 28 then { frame := f.ended b }
      else if byteAt b transportOffset = IcmpHeader.echoRequestType then
        (Reaction.answering .echo
          (((f.ended b).write transportOffset (Icmp.echoed (message b))).answerIpv4 s
            IpProtocol.icmp (packetLength b - 20))).note (.answeringEcho (packetLength b - 20))
      else { frame := f.ended b, notes := [.otherIcmp ((f.ended b).byte transportOffset)] } := by
  rw [readIcmp]
  by_cases hshort : packetLength b < 28
  · rw [if_pos hshort, if_pos (by omega)]
  · have hlen : 8 ≤ (message b).length := by
      rw [h.length_message]
      omega
    have hslice : (f.ended b).slice transportOffset (ipOffset + packetLength b) = message b :=
      slice_ended hf h (Nat.le_refl _)
    rw [if_neg hshort, if_neg (by omega), h.end_eq, hslice, Icmp.echoReply?_eq hlen,
      byteAt_message (by omega)]
    split
    next heq =>
      split at heq
      · cases heq
      next htype => rw [if_neg htype]
    next heq =>
      split at heq
      next htype =>
        cases heq
        rw [if_pos htype]
      · cases heq

lemma react_of_asksEcho (hf : f.Holds b) (h : AsksEcho s b) :
    f.react s r turn b.length =
      (Reaction.answering .echo
        (((f.ended b).write transportOffset (Icmp.echoed (message b))).answerIpv4 s
          IpProtocol.icmp (packetLength b - 20))).note (.answeringEcho (packetLength b - 20)) := by
  rw [react_of_accepted hf h.toAccepted, if_pos h.protocol, readIcmp_ended hf h.toAccepted,
    if_neg (Nat.not_lt.2 h.message), if_pos h.type]

lemma get_tcp_ended (hf : f.Holds b) (h : Accepted s b) (hlen : 40 ≤ packetLength b) :
    (f.ended b).get? TcpHeader transportOffset (transportOffset + (packetLength b - 20)) =
      some (tcp b) := by
  rw [get?_of_le _ (show 34 + 20 ≤ 34 + (packetLength b - 20) by omega),
    get_ended hf h (show 34 + 20 ≤ 14 + packetLength b by omega)]

lemma get_udp_ended (hf : f.Holds b) (h : Accepted s b) (hlen : 28 ≤ packetLength b) :
    (f.ended b).get? UdpHeader transportOffset (transportOffset + (packetLength b - 20)) =
      some (udp b) := by
  rw [get?_of_le _ (show 34 + 8 ≤ 34 + (packetLength b - 20) by omega),
    get_ended hf h (show 34 + 8 ≤ 14 + packetLength b by omega)]

/-- A segment for this host is handed to `readTcp`, which finds its data offset in range. -/
lemma react_of_carriesSegment (hf : f.Holds b) (h : CarriesSegment s b) :
    f.react s r turn b.length =
      if (tcp b).has TcpFlag.psh = false then
        (Reaction.answering .tcpControl
          (((f.ended b).put transportOffset (tcp b).controlReply).finishTcp s 20 0)).note
            (.answeringControl (tcp b).controlReply.srcPort (tcp b).controlReply.flags)
      else
        match r.tcpHandler? (tcp b).dstPort with
        | none =>
          { frame := (f.ended b).put transportOffset (tcp b).swapForReply
            notes := [.noTcpHandler (tcp b).dstPort] }
        | some handler =>
          Reaction.called .tcpData (fun g len => g.answerTcp s r len)
            (((f.ended b).put transportOffset (tcp b).swapForReply).takeTurn
              (segmentCall b handler) turn) := by
  have hge := h.offset_ge
  have hle := h.offset_le
  rw [react_of_accepted hf h.toAccepted, if_neg (by rw [h.protocol]; decide), if_pos h.protocol,
    readTcp, get_tcp_ended hf h.toAccepted h.header]
  dsimp only
  rw [if_neg (by omega)]
  split
  · rfl
  · cases r.tcpHandler? (tcp b).dstPort with
    | none => rfl
    | some handler =>
      dsimp only
      rw [← deliver_eq]
      rfl

/-- A datagram for this host is handed to `readUdp`. -/
lemma react_of_carriesDatagram (hf : f.Holds b) (h : CarriesDatagram s b) :
    f.react s r turn b.length =
      match r.udpHandler? (udp b).dstPort with
      | none =>
        { frame := (f.ended b).terminate
            (udpDataOffset + min (udp b).payloadLength (packetLength b - 28))
          notes := [.noUdpHandler (udp b).dstPort] }
      | some handler =>
        Reaction.called .udp (fun g len => g.answerUdp s len)
          (((f.ended b).terminate
              (udpDataOffset + min (udp b).payloadLength (packetLength b - 28))).takeTurn
            (datagramCall b handler) turn) := by
  have hdata : packetLength b - 20 - 8 = packetLength b - 28 := by omega
  rw [react_of_accepted hf h.toAccepted, if_neg (by rw [h.protocol]; decide),
    if_neg (by rw [h.protocol]; decide), if_pos h.protocol, readUdp,
    get_udp_ended hf h.toAccepted h.header]
  dsimp only
  rw [hdata]
  cases r.udpHandler? (udp b).dstPort with
  | none => rfl
  | some handler =>
    dsimp only
    rw [← deliver_eq]
    rfl

/-! ### Silence -/

lemma leaves_readArp (hf : f.Holds b) (h : ¬ AsksArp s b)
    (htype : (ethernet b).etherType = EtherType.arp) : (f.readArp s b.length).Leaves f := by
  rw [readArp]
  by_cases hlen : 42 ≤ b.length
  · have hreq : (arp b).isRequestFor s.ip = false := by
      refine eq_false_of_ne_true fun hreq => h ?_
      simp only [ArpPacket.isRequestFor, ArpPacket.isEthernetIpv4, Bool.and_eq_true, beq_iff_eq]
        at hreq
      exact ⟨hlen, htype, hreq.1.1.1, hreq.1.1.2, hreq.1.2, hreq.2⟩
    rw [hf.get_arp? hlen]
    dsimp only
    rw [hreq]
    exact ⟨_, rfl⟩
  · rw [get?_of_lt f (Nat.not_le.1 hlen)]
    exact ⟨_, rfl⟩

lemma leaves_readIpv4 (hf : f.Holds b) (h : ¬ Accepted s b)
    (htype : (ethernet b).etherType = EtherType.ipv4) :
    (f.readIpv4 s r turn b.length).Leaves f := by
  rw [readIpv4]
  by_cases hlen : 34 ≤ b.length
  · rw [hf.get_ipv4? hlen]
    dsimp only
    split
    · exact ⟨_, rfl⟩
    next hdst =>
      split
      · exact ⟨_, rfl⟩
      next hcheck =>
        split
        · exact ⟨_, rfl⟩
        next hcovers =>
          -- nothing is left to object to
          simp only [not_or, Bool.not_eq_false, Decidable.not_not, Ipv4Header.isPlain,
            beq_iff_eq] at hdst
          refine absurd ⟨hlen, htype, hdst.1, hdst.2, fun hv => ?_, Nat.not_lt.1 hcovers⟩ h
          exact eq_true_of_ne_false fun hc => hcheck ⟨hv, hc⟩
  · rw [get?_of_lt f (Nat.not_le.1 hlen)]
    exact ⟨_, rfl⟩

lemma leaves_readIcmp (hf : f.Holds b) (hacc : Accepted s b) (h : ¬ AsksEcho s b)
    (hprot : (ip b).protocol = IpProtocol.icmp) :
    ((f.ended b).readIcmp s (packetLength b - 20)).Leaves (f.ended b) := by
  rw [readIcmp_ended hf hacc]
  split
  · exact ⟨_, rfl⟩
  next hlen =>
    split
    next htype => exact absurd ⟨hacc, hprot, Nat.not_lt.1 hlen, htype⟩ h
    next => exact ⟨_, rfl⟩

lemma leaves_readTcp (hf : f.Holds b) (hacc : Accepted s b) (h : ¬ CarriesSegment s b)
    (hprot : (ip b).protocol = IpProtocol.tcp) :
    ((f.ended b).readTcp s r turn (ip b) (packetLength b - 20)).Leaves (f.ended b) := by
  rw [readTcp]
  by_cases hlen : 40 ≤ packetLength b
  · rw [get_tcp_ended hf hacc hlen]
    dsimp only
    rw [if_pos]
    · exact ⟨_, rfl⟩
    · by_cases hge : (tcp b).dataOffset < 20
      · exact .inl hge
      · exact .inr (Nat.lt_of_not_le fun hle => h ⟨hacc, hprot, hlen, Nat.not_lt.1 hge, hle⟩)
  · rw [get?_of_lt _ (show 34 + (packetLength b - 20) < 34 + 20 by omega)]
    exact ⟨_, rfl⟩

lemma leaves_readUdp (hacc : Accepted s b) (h : ¬ CarriesDatagram s b)
    (hprot : (ip b).protocol = IpProtocol.udp) :
    ((f.ended b).readUdp s r turn (ip b) (packetLength b - 20)).Leaves (f.ended b) := by
  have hlen : ¬ 28 ≤ packetLength b := fun hlen => h ⟨hacc, hprot, hlen⟩
  rw [readUdp, get?_of_lt _ (show 34 + (packetLength b - 20) < 34 + 8 by omega)]
  exact ⟨_, rfl⟩

/-- What is left in the buffer of a frame that asks for nothing: an accepted packet has been ended,
and a segment or a datagram has been made ready for an application. -/
def kept (s : Settings) (f : Frame) (b : Bytes) : Frame :=
  if CarriesSegment s b then (f.ended b).put transportOffset (tcp b).swapForReply
  else if CarriesDatagram s b then
    (f.ended b).terminate (udpDataOffset + min (udp b).payloadLength (packetLength b - 28))
  else if Accepted s b then f.ended b
  else f

lemma leaves_of_ignored (hf : f.Holds b) (h : Ignored s r b) :
    (f.react s r turn b.length).Leaves (f.kept s b) := by
  by_cases hseg : CarriesSegment s b
  · -- data that nobody is registered for
    have hpsh := h.control hseg
    rw [kept, if_pos hseg, react_of_carriesSegment hf hseg, if_neg (by simp [hpsh])]
    cases hh : r.tcpHandler? (tcp b).dstPort with
    | none => exact ⟨_, rfl⟩
    | some handler => exact absurd (.segment hseg hpsh hh) (h.calls _)
  by_cases hdgram : CarriesDatagram s b
  · rw [kept, if_neg hseg, if_pos hdgram, react_of_carriesDatagram hf hdgram]
    cases hh : r.udpHandler? (udp b).dstPort with
    | none => exact ⟨_, rfl⟩
    | some handler => exact absurd (.datagram hdgram hh) (h.calls _)
  rw [kept, if_neg hseg, if_neg hdgram]
  by_cases hacc : Accepted s b
  · rw [if_pos hacc, react_of_accepted hf hacc]
    split
    next hprot => exact leaves_readIcmp hf hacc h.echo hprot
    next =>
      split
      next hprot => exact leaves_readTcp hf hacc hseg hprot
      next =>
        split
        next hprot => exact leaves_readUdp hacc hdgram hprot
        next => exact ⟨_, rfl⟩
  rw [if_neg hacc]
  by_cases hlen : 14 < b.length
  · rw [react_of_lt hf hlen]
    split
    next htype => exact leaves_readArp hf h.arp htype
    next =>
      split
      next htype => exact leaves_readIpv4 hf hacc htype
      next => exact ⟨_, rfl⟩
  · rw [react, if_pos (Nat.not_lt.1 hlen)]
    exact ⟨_, rfl⟩

lemma react_of_ignored (hf : f.Holds b) (h : Ignored s r b) :
    (f.react s r turn b.length).Silent :=
  (leaves_of_ignored hf h).silent

end Frame

end PacketHost
