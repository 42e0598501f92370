import Mathlib.Tactic.MkIffOfInductiveProp
import PacketHost.Proofs.Turn

/-!
What a received frame asks for.

A frame asks for one thing or for nothing (`Demand`), and which it is depends on the received bytes,
the settings and the registered ports alone. The lengths that the nested headers claim are cut here
once and for all: a packet ends within the frame, and what it carries ends within the packet.
-/

namespace PacketHost

open Bytes

namespace Received

variable (s : Settings) (r : Registry) (b : Bytes)

/-! ### The headers of a received frame -/

abbrev ethernet : EthernetHeader := Wire.decode b 0

abbrev arp : ArpPacket := Wire.decode b ipOffset

abbrev ip : Ipv4Header := Wire.decode b ipOffset

abbrev udp : UdpHeader := Wire.decode b transportOffset

abbrev tcp : TcpHeader := Wire.decode b transportOffset

/-- A packet ends where its header says or where the frame does. -/
def packetLength : Nat := min (ip b).totalLength.toNat (b.length - ipOffset)

/-- What stands behind the IPv4 header, up to the end of the packet. -/
def message : Bytes := slice b transportOffset (ipOffset + packetLength b)

/-! ### Demands -/

@[mk_iff] structure AsksArp : Prop where
  length_le : 42 ≤ b.length
  etherType : (ethernet b).etherType = EtherType.arp
  hwType : (arp b).hwType = 1
  protoType : (arp b).protoType = EtherType.ipv4
  opcode : (arp b).opcode = ArpPacket.opRequest
  target : (arp b).targetIp = s.ip

/-- A plain packet for this host. -/
@[mk_iff] structure Accepted : Prop where
  length_le : 34 ≤ b.length
  etherType : (ethernet b).etherType = EtherType.ipv4
  plain : (ip b).versionIhl = Ipv4Header.plainVersionIhl
  dst : (ip b).dst = s.ip
  checks : s.verifyChecksums = true → (ip b).checksumValid = true
  covers : 20 ≤ packetLength b

@[mk_iff] structure AsksEcho : Prop extends Accepted s b where
  protocol : (ip b).protocol = IpProtocol.icmp
  message : 28 ≤ packetLength b
  type : byteAt b transportOffset = IcmpHeader.echoRequestType

@[mk_iff] structure CarriesSegment : Prop extends Accepted s b where
  protocol : (ip b).protocol = IpProtocol.tcp
  header : 40 ≤ packetLength b
  offset_ge : 20 ≤ (tcp b).dataOffset
  offset_le : (tcp b).dataOffset ≤ packetLength b - 20

@[mk_iff] structure CarriesDatagram : Prop extends Accepted s b where
  protocol : (ip b).protocol = IpProtocol.udp
  header : 28 ≤ packetLength b

instance : Decidable (AsksArp s b) := decidable_of_iff _ (asksArp_iff s b).symm

instance : Decidable (Accepted s b) := decidable_of_iff _ (accepted_iff s b).symm

instance : Decidable (AsksEcho s b) := decidable_of_iff _ (asksEcho_iff s b).symm

instance : Decidable (CarriesSegment s b) := decidable_of_iff _ (carriesSegment_iff s b).symm

instance : Decidable (CarriesDatagram s b) := decidable_of_iff _ (carriesDatagram_iff s b).symm

/-- The turn that a segment gives to an application. -/
def segmentCall (handler : Handler) : Call :=
  { handler
    start := transportOffset + (tcp b).dataOffset
    length := packetLength b - 20 - (tcp b).dataOffset
    remoteIp := (ip b).src
    remotePort := (tcp b).srcPort
    localPort := (tcp b).dstPort }

/-- The turn that a datagram gives to an application. -/
def datagramCall (handler : Handler) : Call :=
  { handler
    start := udpDataOffset
    length := min (udp b).payloadLength (packetLength b - 28)
    remoteIp := (ip b).src
    remotePort := (udp b).srcPort
    localPort := (udp b).dstPort }

/-- The frame is for an application. -/
inductive Calls : Call → Prop
  | segment {handler : Handler} (h : CarriesSegment s b)
      (hpsh : (tcp b).has TcpFlag.psh = true)
      (hh : r.tcpHandler? (tcp b).dstPort = some handler) : Calls (segmentCall b handler)
  | datagram {handler : Handler} (h : CarriesDatagram s b)
      (hh : r.udpHandler? (udp b).dstPort = some handler) : Calls (datagramCall b handler)

/-- The frame asks for nothing. -/
structure Ignored : Prop where
  arp : ¬ AsksArp s b
  echo : ¬ AsksEcho s b
  control : CarriesSegment s b → (tcp b).has TcpFlag.psh = true
  calls : ∀ c, ¬ Calls s r b c

inductive Demand : Prop
  | arp (h : AsksArp s b)
  | echo (h : AsksEcho s b)
  | control (h : CarriesSegment s b) (hpsh : (tcp b).has TcpFlag.psh = false)
  | segment (handler : Handler) (h : CarriesSegment s b)
      (hpsh : (tcp b).has TcpFlag.psh = true)
      (hh : r.tcpHandler? (tcp b).dstPort = some handler)
  | datagram (handler : Handler) (h : CarriesDatagram s b)
      (hh : r.udpHandler? (udp b).dstPort = some handler)
  | nothing (h : Ignored s r b)

theorem demand : Demand s r b := by
  by_cases harp : AsksArp s b
  · exact .arp harp
  by_cases hecho : AsksEcho s b
  · exact .echo hecho
  by_cases hcontrol : CarriesSegment s b ∧ (tcp b).has TcpFlag.psh = false
  · exact .control hcontrol.1 hcontrol.2
  by_cases hcall : ∃ c, Calls s r b c
  · obtain ⟨c, hc⟩ := hcall
    cases hc with
    | segment h hpsh hh => exact .segment _ h hpsh hh
    | datagram h hh => exact .datagram _ h hh
  · refine .nothing ⟨harp, hecho, fun h => ?_, fun c hc => hcall ⟨c, hc⟩⟩
    exact eq_true_of_ne_false fun hpsh => hcontrol ⟨h, hpsh⟩

variable {s r b}

/-! ### No frame asks for two things -/

lemma Accepted.not_asksArp (h : Accepted s b) : ¬ AsksArp s b := by
  intro harp
  have := h.etherType.symm.trans harp.etherType
  exact absurd this (by decide)

lemma CarriesSegment.not_asksEcho (h : CarriesSegment s b) : ¬ AsksEcho s b := by
  intro hecho
  have := h.protocol.symm.trans hecho.protocol
  exact absurd this (by decide)

lemma CarriesDatagram.not_asksEcho (h : CarriesDatagram s b) : ¬ AsksEcho s b := by
  intro hecho
  have := h.protocol.symm.trans hecho.protocol
  exact absurd this (by decide)

lemma CarriesDatagram.not_carriesSegment (h : CarriesDatagram s b) : ¬ CarriesSegment s b := by
  intro hseg
  have := h.protocol.symm.trans hseg.protocol
  exact absurd this (by decide)

lemma Accepted.end_le (h : Accepted s b) : ipOffset + packetLength b ≤ b.length := by
  have hle : packetLength b ≤ b.length - 14 := Nat.min_le_right _ _
  have hlen := h.length_le
  show 14 + packetLength b ≤ b.length
  omega

lemma Accepted.end_eq (h : Accepted s b) :
    transportOffset + (packetLength b - 20) = ipOffset + packetLength b := by
  have hmin := h.covers
  show 34 + (packetLength b - 20) = 14 + packetLength b
  omega

@[simp] lemma Accepted.length_message (h : Accepted s b) :
    (message b).length = packetLength b - 20 := by
  have hend : 14 + packetLength b ≤ b.length := h.end_le
  rw [message, length_slice]
  show min (14 + packetLength b - 34) (b.length - 34) = packetLength b - 20
  omega

lemma byteAt_message (h : 20 < packetLength b) :
    byteAt (message b) 0 = byteAt b transportOffset := by
  have hin : 0 < ipOffset + packetLength b - transportOffset := Nat.sub_pos_of_lt
    (Nat.add_lt_add_left h 14)
  rw [message, byteAt_slice, if_pos hin]

lemma Calls.accepted {c : Call} (h : Calls s r b c) : Accepted s b := by
  cases h with
  | segment h => exact h.toAccepted
  | datagram h => exact h.toAccepted

/-- A segment's data ends with its packet. -/
lemma CarriesSegment.end_eq (h : CarriesSegment s b) (handler : Handler) :
    (segmentCall b handler).start + (segmentCall b handler).length = ipOffset + packetLength b := by
  have hle := h.offset_le
  have hmin := h.header
  show 34 + (tcp b).dataOffset + (packetLength b - 20 - (tcp b).dataOffset) = 14 + packetLength b
  omega

lemma Calls.end_le {c : Call} (h : Calls s r b c) :
    c.start + c.length ≤ ipOffset + packetLength b := by
  cases h with
  | segment h => exact Nat.le_of_eq (h.end_eq _)
  | datagram h =>
    have hmin := h.header
    show 42 + min (udp b).payloadLength (packetLength b - 28) ≤ 14 + packetLength b
    omega

lemma Calls.not_asksEcho {c : Call} (h : Calls s r b c) : ¬ AsksEcho s b := by
  cases h with
  | segment h => exact h.not_asksEcho
  | datagram h => exact h.not_asksEcho

lemma Calls.unique {c d : Call} (hc : Calls s r b c) (hd : Calls s r b d) : c = d := by
  cases hc with
  | segment h hpsh hh =>
    cases hd with
    | segment h' hpsh' hh' => rw [Option.some.inj (hh.symm.trans hh')]
    | datagram h' hh' => exact absurd h h'.not_carriesSegment
  | datagram h hh =>
    cases hd with
    | segment h' hpsh' hh' => exact absurd h' h.not_carriesSegment
    | datagram h' hh' => rw [Option.some.inj (hh.symm.trans hh')]

end Received

end PacketHost
