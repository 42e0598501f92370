import PacketHost.Proofs.Guarded.Names
import PacketHost.Proofs.Guarded.Reactions
import PacketHost.Proofs.Matching

/-!
Inquiries within the buffer.

What a host waits for is looked for in frames of any length. A header that has been read is what
makes sure that the next part begins within the frame; where it ends is the smaller of what two
lengths say. The query that is sent has as much room as a datagram can have, so it can always be
sent once it is written.
-/

namespace PacketHost

open Bytes

lemma Bytes.slice_length (b : Bytes) (n : Nat) : slice b n b.length = b.drop n := by
  rw [slice, ← List.length_drop, List.take_length]

lemma guard_bind {α : Type} {p : Prop} [Decidable p] (f : Unit → Option α) :
    (guard p : Option Unit) >>= f = if p then f () else none := by
  unfold guard
  split <;> rfl

namespace Guarded

/-! ### What is waited for -/

def arpAnswer? (ip : Ipv4Addr) (frame : Bytes) : Guarded (Option MacAddr) :=
  match (Wire.parse? frame : Option EthernetHeader) with
  | none => pure none
  | some eth =>
    if eth.etherType = EtherType.arp then do
      match (Wire.parse? (← slice frame ipOffset frame.length) : Option ArpPacket) with
      | none => return none
      | some p => return if p.isReplyFrom ip then some p.senderHw else none
    else
      pure none

def ipv4Packet? (frame : Bytes) : Guarded (Option (Ipv4Header × Bytes)) :=
  match (Wire.parse? frame : Option EthernetHeader) with
  | none => pure none
  | some eth =>
    if eth.etherType = EtherType.ipv4 then do
      match (Wire.parse? (← slice frame ipOffset frame.length) : Option Ipv4Header) with
      | none => return none
      | some ip =>
        let stop := min (ipOffset + ip.totalLength.toNat) frame.length
        if ip.isPlain ∧ transportOffset ≤ stop then
          return some (ip, ← slice frame transportOffset stop)
        else
          return none
    else
      pure none

def echoAnswer? (self ip : Ipv4Addr) (identifier sequence : UInt16) (frame : Bytes) :
    Guarded (Option Unit) := do
  match ← ipv4Packet? frame with
  | none => return none
  | some (header, payload) =>
    if header.protocol = IpProtocol.icmp ∧ header.src = ip ∧ header.dst = self then
      match (Wire.parse? payload : Option IcmpHeader) with
      | none => return none
      | some icmp =>
        return if icmp.isEchoReply ∧ icmp.identifier = identifier ∧ icmp.sequence = sequence then
          some ()
        else none
    else
      return none

def dnsAnswer? (server : Ipv4Addr) (port id : UInt16) (frame : Bytes) : Guarded (Option Bytes) := do
  match ← ipv4Packet? frame with
  | none => return none
  | some (header, payload) =>
    if header.protocol = IpProtocol.udp ∧ header.src = server then
      match (Wire.parse? payload : Option UdpHeader) with
      | none => return none
      | some udp =>
        if udp.srcPort = dnsPort ∧ udp.dstPort = port then
          let message ← slice payload 8 (min (8 + udp.payloadLength) payload.length)
          match ← dnsHeader? message with
          | none => return none
          | some dns => return if dns.id = id then some message else none
        else
          return none
    else
      return none

/-! ### What is sent -/

section Staging

variable (s : Settings) (f : Frame)

def stageArpRequest (ip : Ipv4Addr) : Guarded Frame := do
  let f ← putRecord f 0 frameSize (EthernetHeader.mk .broadcast s.mac EtherType.arp)
  putRecord f ipOffset frameSize (ArpPacket.request s.mac s.ip ip)

def stagePacket (peerHw : MacAddr) (protocol : UInt8) (peer : Ipv4Addr) (id : UInt16) :
    Guarded Frame := do
  let f ← putRecord f 0 frameSize (EthernetHeader.mk s.mac peerHw EtherType.ipv4)
  let header := Ipv4Header.outgoing protocol id peer s.ip 0
  putRecord f ipOffset transportOffset { header with totalLength := ← word16 20 }

def stageEchoRequest (identifier sequence : UInt16) : Guarded Frame := do
  let stop := transportOffset + (8 + pingPayload.length)
  let message ← part f transportOffset stop
  let message ← store message 0 message.length
    (Wire.encode (IcmpHeader.echoRequest identifier sequence))
  let message ← copy message 8 message.length pingPayload
  copyTo f transportOffset stop (← fillChecksum message)

def stageQuery (id : UInt16) (name : String) : Guarded (Except NetError Nat × Frame) := do
  let f ← putRecord f transportOffset udpDataOffset (UdpHeader.mk dnsPort s.dnsSourcePort 0 0)
  let stop ← sub maxFrameLength 1
  let (length?, query) ← buildQuery id name (← part f udpDataOffset stop)
  return (length?, ← copyTo f udpDataOffset stop query)

end Staging

/-! ### Frames of any length -/

lemma arpAnswer?_eq (ip : Ipv4Addr) (frame : Bytes) :
    arpAnswer? ip frame = pure (PacketHost.arpAnswer? ip frame) := by
  unfold arpAnswer? PacketHost.arpAnswer?
  cases heth : (Wire.parse? frame : Option EthernetHeader) with
  | none => rfl
  | some eth =>
    have hlen : 14 ≤ frame.length := (Wire.parse?_eq_some.1 heth).1
    rw [Option.bind_eq_bind, Option.bind_some, guard_bind]
    dsimp only
    split
    · rw [slice_eq hlen (Nat.le_refl _), pure_bind, slice_length]
      cases (Wire.parse? (frame.drop ipOffset) : Option ArpPacket) with
      | none => rfl
      | some p =>
        rw [Option.bind_eq_bind, Option.bind_some, guard_bind]
        rfl
    · rfl

lemma ipv4Packet?_eq (frame : Bytes) :
    ipv4Packet? frame = pure (PacketHost.ipv4Packet? frame) := by
  unfold ipv4Packet? PacketHost.ipv4Packet?
  cases heth : (Wire.parse? frame : Option EthernetHeader) with
  | none => rfl
  | some eth =>
    have hlen : 14 ≤ frame.length := (Wire.parse?_eq_some.1 heth).1
    rw [Option.bind_eq_bind, Option.bind_some, guard_bind]
    dsimp only
    split
    · rw [slice_eq hlen (Nat.le_refl _), pure_bind, slice_length]
      cases (Wire.parse? (frame.drop ipOffset) : Option Ipv4Header) with
      | none => rfl
      | some ip =>
        rw [Option.bind_eq_bind, Option.bind_some, guard_bind]
        dsimp only
        rw [guard_bind]
        by_cases hplain : ip.isPlain
        · by_cases hstop : transportOffset ≤ min (ipOffset + ip.totalLength.toNat) frame.length
          · rw [if_pos ⟨hplain, hstop⟩, if_pos hplain, if_pos hstop,
              slice_eq hstop (Nat.min_le_right _ _), pure_bind]
            rfl
          · rw [if_neg (fun h => hstop h.2), if_pos hplain, if_neg hstop]
        · rw [if_neg (fun h => hplain h.1), if_neg hplain]
    · rfl

lemma echoAnswer?_eq (self ip : Ipv4Addr) (identifier sequence : UInt16) (frame : Bytes) :
    echoAnswer? self ip identifier sequence frame =
      pure (PacketHost.echoAnswer? self ip identifier sequence frame) := by
  unfold echoAnswer? PacketHost.echoAnswer?
  rw [ipv4Packet?_eq, pure_bind]
  cases PacketHost.ipv4Packet? frame with
  | none => rfl
  | some packet =>
    obtain ⟨header, payload⟩ := packet
    rw [Option.bind_eq_bind, Option.bind_some]
    dsimp only
    rw [guard_bind]
    split
    · cases (Wire.parse? payload : Option IcmpHeader) with
      | none => rfl
      | some icmp =>
        rw [Option.bind_eq_bind, Option.bind_some]
        rfl
    · rfl

lemma dnsAnswer?_eq (server : Ipv4Addr) (port id : UInt16) (frame : Bytes) :
    dnsAnswer? server port id frame = pure (PacketHost.dnsAnswer? server port id frame) := by
  unfold dnsAnswer? PacketHost.dnsAnswer?
  rw [ipv4Packet?_eq, pure_bind]
  cases PacketHost.ipv4Packet? frame with
  | none => rfl
  | some packet =>
    obtain ⟨header, payload⟩ := packet
    rw [Option.bind_eq_bind, Option.bind_some]
    dsimp only
    rw [guard_bind]
    split
    · cases hudp : (Wire.parse? payload : Option UdpHeader) with
      | none => rfl
      | some udp =>
        have hlen : 8 ≤ payload.length := (Wire.parse?_eq_some.1 hudp).1
        rw [Option.bind_eq_bind, Option.bind_some, guard_bind]
        dsimp only
        split
        · rw [slice_eq (by omega) (Nat.min_le_right _ _), pure_bind, dnsHeader?_eq, pure_bind]
          cases (Wire.parse? (Bytes.slice payload 8
              (min (8 + udp.payloadLength) payload.length)) : Option DnsHeader) with
          | none => rfl
          | some dns =>
            rw [Option.bind_eq_bind, Option.bind_some, guard_bind]
            rfl
        · rfl
    · rfl

/-! ### Requests -/

section Staging

variable (s : Settings) (f : Frame)

lemma stageArpRequest_eq (ip : Ipv4Addr) :
    stageArpRequest s f ip = pure (f.stageArpRequest s ip) := by
  rw [stageArpRequest, putRecord_eq (by decide) (Nat.le_refl _), pure_bind,
    putRecord_eq (by decide) (Nat.le_refl _), Frame.stageArpRequest]

lemma stagePacket_eq (peerHw : MacAddr) (protocol : UInt8) (peer : Ipv4Addr) (id : UInt16) :
    stagePacket s f peerHw protocol peer id = pure (f.stagePacket s peerHw protocol peer id) := by
  rw [stagePacket, putRecord_eq (by decide) (Nat.le_refl _), pure_bind]
  dsimp only
  rw [word16_eq (by decide), pure_bind, putRecord_eq (by decide) (by decide)]
  rfl

lemma stageEchoRequest_eq (identifier sequence : UInt16) :
    stageEchoRequest f identifier sequence = pure (f.stageEchoRequest identifier sequence) := by
  have hpayload : 8 + pingPayload.length = 40 := by decide
  have hlen : (f.slice transportOffset (transportOffset + 40)).length = 40 := by
    rw [Frame.length_slice]
    rfl
  rw [stageEchoRequest, hpayload, part_eq (by decide) (by decide), pure_bind]
  generalize f.slice transportOffset (transportOffset + 40) = m at hlen ⊢
  have hfront (h : IcmpHeader) : overwrite m 0 (Wire.encode h) = Wire.encode h ++ m.drop 8 :=
    overwrite_zero (show 8 ≤ m.length by omega)
  have hwhole (h : IcmpHeader) : overwrite (overwrite m 0 (Wire.encode h)) 8 pingPayload =
      Wire.encode h ++ pingPayload := by
    rw [hfront]
    exact overwrite_append_right rfl (by rw [List.length_drop, hlen]; decide)
  rw [store_eq (show 0 + 8 ≤ m.length by omega) (Nat.le_refl _), pure_bind,
    copy_eq (by rw [hpayload, length_overwrite, hlen]) (Nat.le_refl _), pure_bind, hwhole,
    fillChecksum_eq (by rw [List.length_append]; exact Nat.le_add_right 8 _), pure_bind,
    copyTo_eq _ (by decide)]
  · rfl
  · rw [Icmp.fillChecksum, length_overwrite]
    rfl

lemma stageQuery_eq (id : UInt16) (name : String) :
    stageQuery s f id name = pure (f.stageQuery s id name) := by
  rw [stageQuery, putRecord_eq (by decide) (by decide), pure_bind, sub_eq (by decide), pure_bind,
    part_eq (by decide) (by decide), pure_bind, buildQuery_eq, pure_bind]
  dsimp only
  rw [copyTo_eq _ (by decide), pure_bind]
  · rfl
  · rw [(length_buildQuery id name _).1, Frame.length_slice]
    rfl

/-- A query that has been written is not too long to be sent. -/
lemma length_stageQuery {id : UInt16} {name : String} {n : Nat}
    (h : (f.stageQuery s id name).1 = .ok n) : n ≤ 1471 := by
  refine Nat.le_trans ((length_buildQuery id name _).2 n h) ?_
  rw [Frame.length_slice]
  exact Nat.min_le_left _ _

end Staging

end Guarded

end PacketHost
