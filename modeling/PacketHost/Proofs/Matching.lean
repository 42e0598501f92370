import Mathlib.Data.Option.Basic
import PacketHost.Inquiry
import PacketHost.Proofs.Demand

/-!
What a host that has asked takes for an answer.

A frame is matched by the fields of its headers. The conditions are gathered here, one structure for
each question, and what the host takes from a frame that meets them: a hardware address, nothing, or
a message.
-/

namespace PacketHost

open Bytes

namespace Wire

variable {α : Type} [Wire α] {b : Bytes} {a : α}

lemma parse?_eq_some : parse? b = some a ↔ width α ≤ b.length ∧ decode b 0 = a := by
  rw [parse?]
  split
  next h => simp [h]
  next h => simp [h]

lemma parse?_drop_eq_some [LawfulWire α] {n : Nat} (hw : 0 < width α) :
    parse? (b.drop n) = some a ↔ n + width α ≤ b.length ∧ decode b n = a := by
  have hdecode : (decode (b.drop n) 0 : α) = decode b n :=
    decode_congr fun i _ => by rw [byteAt_drop, Nat.zero_add]
  have hlen : width α ≤ b.length - n ↔ n + width α ≤ b.length := by omega
  rw [parse?_eq_some, List.length_drop, hdecode, hlen]

end Wire

namespace Received

/-- The frame tells the hardware address of `ip`. -/
@[mk_iff] structure TellsHardware (ip : Ipv4Addr) (b : Bytes) : Prop where
  length_le : 42 ≤ b.length
  etherType : (ethernet b).etherType = EtherType.arp
  hwType : (arp b).hwType = 1
  protoType : (arp b).protoType = EtherType.ipv4
  opcode : (arp b).opcode = ArpPacket.opReply
  senderIp : (arp b).senderIp = ip

/-- A packet without options for anyone. -/
@[mk_iff] structure Plain (b : Bytes) : Prop where
  length_le : 34 ≤ b.length
  etherType : (ethernet b).etherType = EtherType.ipv4
  versionIhl : (ip b).versionIhl = Ipv4Header.plainVersionIhl
  covers : 20 ≤ packetLength b

/-- The frame is the reply to an echo request from `self` to `peer`. -/
@[mk_iff] structure RepliesToEcho (self peer : Ipv4Addr) (identifier sequence : UInt16)
    (b : Bytes) : Prop extends Plain b where
  protocol : (ip b).protocol = IpProtocol.icmp
  src : (ip b).src = peer
  dst : (ip b).dst = self
  header : 8 ≤ (message b).length
  type : (Wire.decode (message b) 0 : IcmpHeader).type = IcmpHeader.echoReplyType
  identifier_eq : (Wire.decode (message b) 0 : IcmpHeader).identifier = identifier
  sequence_eq : (Wire.decode (message b) 0 : IcmpHeader).sequence = sequence

/-- What a datagram carries, as far as its length and that of the packet go. -/
def datagramData (b : Bytes) : Bytes :=
  slice (message b) 8
    (min (8 + (Wire.decode (message b) 0 : UdpHeader).payloadLength) (message b).length)

lemma length_datagramData_le (b : Bytes) : (datagramData b).length ≤ b.length - udpDataOffset := by
  rw [datagramData, message, length_slice, length_slice]
  show min _ (min _ (b.length - 34) - 8) ≤ b.length - 42
  omega

/-- The frame answers the query with this identifier that was sent from `port` to `server`. -/
@[mk_iff] structure AnswersQuery (server : Ipv4Addr) (port id : UInt16) (b : Bytes) : Prop
    extends Plain b where
  protocol : (ip b).protocol = IpProtocol.udp
  src : (ip b).src = server
  header : 8 ≤ (message b).length
  srcPort : (Wire.decode (message b) 0 : UdpHeader).srcPort = dnsPort
  dstPort : (Wire.decode (message b) 0 : UdpHeader).dstPort = port
  length_data : 12 ≤ (datagramData b).length
  id_eq : (Wire.decode (datagramData b) 0 : DnsHeader).id = id

variable {ip : Ipv4Addr} {b : Bytes}

lemma parse?_ethernet {eth : EthernetHeader} :
    Wire.parse? b = some eth ↔ 14 ≤ b.length ∧ ethernet b = eth :=
  Wire.parse?_eq_some

lemma arpAnswer?_eq_some {hw : MacAddr} :
    arpAnswer? ip b = some hw ↔ TellsHardware ip b ∧ (arp b).senderHw = hw := by
  have harp (p : ArpPacket) :
      Wire.parse? (b.drop ipOffset) = some p ↔ 42 ≤ b.length ∧ arp b = p :=
    Wire.parse?_drop_eq_some (by decide)
  simp only [arpAnswer?, Option.bind_eq_bind, Option.bind_eq_some_iff, Option.guard_eq_some',
    parse?_ethernet, harp, ArpPacket.isReplyFrom, ArpPacket.isEthernetIpv4, Bool.and_eq_true,
    beq_iff_eq, tellsHardware_iff]
  constructor
  · rintro ⟨eth, ⟨-, rfl⟩, -, htype, p, ⟨hlen, rfl⟩, -, ⟨⟨⟨hhw, hproto⟩, hop⟩, hip⟩, hsender⟩
    exact ⟨⟨hlen, htype, hhw, hproto, hop, hip⟩, Option.some.inj hsender⟩
  · rintro ⟨⟨hlen, htype, hhw, hproto, hop, hip⟩, rfl⟩
    exact ⟨_, ⟨by omega, rfl⟩, ⟨⟩, htype, _, ⟨hlen, rfl⟩, ⟨⟩, ⟨⟨⟨hhw, hproto⟩, hop⟩, hip⟩, rfl⟩

lemma arpAnswer?_eq_none : arpAnswer? ip b = none ↔ ¬ TellsHardware ip b := by
  rw [Option.eq_none_iff_forall_ne_some]
  constructor
  · intro h htells
    exact h _ (arpAnswer?_eq_some.2 ⟨htells, rfl⟩)
  · intro h hw hanswer
    exact h (arpAnswer?_eq_some.1 hanswer).1

lemma ipv4Packet?_eq_some {header : Ipv4Header} {payload : Bytes} :
    ipv4Packet? b = some (header, payload) ↔
      Plain b ∧ Received.ip b = header ∧ message b = payload := by
  have hip (h : Ipv4Header) :
      Wire.parse? (b.drop ipOffset) = some h ↔ 34 ≤ b.length ∧ Received.ip b = h :=
    Wire.parse?_drop_eq_some (by decide)
  have hstop (hlen : 34 ≤ b.length) :
      min (ipOffset + (Received.ip b).totalLength.toNat) b.length = ipOffset + packetLength b := by
    rw [packetLength]
    show min (14 + _) b.length = 14 + min _ (b.length - 14)
    omega
  have hcovers : transportOffset ≤ ipOffset + packetLength b ↔ 20 ≤ packetLength b := by
    show 34 ≤ 14 + packetLength b ↔ _
    omega
  simp only [ipv4Packet?, Option.bind_eq_bind, Option.bind_eq_some_iff, Option.guard_eq_some',
    parse?_ethernet, hip, Ipv4Header.isPlain, beq_iff_eq, plain_iff]
  constructor
  · rintro ⟨eth, ⟨-, rfl⟩, -, htype, h, ⟨hlen, rfl⟩, -, hplain, -, hcover, hpair⟩
    rw [hstop hlen] at hcover hpair
    obtain ⟨rfl, rfl⟩ := Prod.mk.inj (Option.some.inj hpair)
    exact ⟨⟨hlen, htype, hplain, hcovers.1 hcover⟩, rfl, rfl⟩
  · rintro ⟨⟨hlen, htype, hplain, hcover⟩, rfl, rfl⟩
    refine ⟨_, ⟨by omega, rfl⟩, ⟨⟩, htype, _, ⟨hlen, rfl⟩, ⟨⟩, hplain, ⟨⟩, ?_, ?_⟩
    · rw [hstop hlen]
      exact hcovers.2 hcover
    · rw [hstop hlen]
      rfl

lemma echoAnswer?_eq_some {self peer : Ipv4Addr} {identifier sequence : UInt16} :
    echoAnswer? self peer identifier sequence b = some () ↔
      RepliesToEcho self peer identifier sequence b := by
  have hicmp (h : IcmpHeader) : Wire.parse? (message b) = some h ↔
      8 ≤ (message b).length ∧ Wire.decode (message b) 0 = h :=
    Wire.parse?_eq_some
  simp only [echoAnswer?, Option.bind_eq_bind, Option.bind_eq_some_iff, Option.guard_eq_some',
    Prod.exists, ipv4Packet?_eq_some, IcmpHeader.isEchoReply, beq_iff_eq, repliesToEcho_iff]
  constructor
  · rintro ⟨header, payload, ⟨hplain, rfl, rfl⟩, -, ⟨hprotocol, hsrc, hdst⟩, h, hparse,
      htype, hid, hseq⟩
    obtain ⟨hlen, rfl⟩ := (hicmp h).1 hparse
    exact ⟨hplain, hprotocol, hsrc, hdst, hlen, htype, hid, hseq⟩
  · rintro ⟨hplain, hprotocol, hsrc, hdst, hlen, htype, hid, hseq⟩
    exact ⟨_, _, ⟨hplain, rfl, rfl⟩, ⟨⟩, ⟨hprotocol, hsrc, hdst⟩, _, (hicmp _).2 ⟨hlen, rfl⟩,
      htype, hid, hseq⟩

lemma echoAnswer?_eq_none {self peer : Ipv4Addr} {identifier sequence : UInt16} :
    echoAnswer? self peer identifier sequence b = none ↔
      ¬ RepliesToEcho self peer identifier sequence b := by
  rw [Option.eq_none_iff_forall_ne_some]
  constructor
  · intro h hreplies
    exact h () (echoAnswer?_eq_some.2 hreplies)
  · intro h _ hanswer
    exact h (echoAnswer?_eq_some.1 hanswer)

lemma dnsAnswer?_eq_some {server : Ipv4Addr} {port id : UInt16} {data : Bytes} :
    dnsAnswer? server port id b = some data ↔
      AnswersQuery server port id b ∧ datagramData b = data := by
  have hudp (h : UdpHeader) : Wire.parse? (message b) = some h ↔
      8 ≤ (message b).length ∧ Wire.decode (message b) 0 = h :=
    Wire.parse?_eq_some
  have hdns (h : DnsHeader) : Wire.parse? (datagramData b) = some h ↔
      12 ≤ (datagramData b).length ∧ Wire.decode (datagramData b) 0 = h :=
    Wire.parse?_eq_some
  simp only [dnsAnswer?, Option.bind_eq_bind, Option.bind_eq_some_iff, Option.guard_eq_some',
    Prod.exists, ipv4Packet?_eq_some, answersQuery_iff]
  constructor
  · rintro ⟨header, payload, ⟨hplain, rfl, rfl⟩, -, ⟨hprotocol, hsrc⟩, udp, hparse, -,
      ⟨hfrom, hto⟩, dns, hmessage, -, hid, hdata⟩
    obtain ⟨hlen, rfl⟩ := (hudp udp).1 hparse
    obtain ⟨hlen', rfl⟩ := (hdns dns).1 hmessage
    exact ⟨⟨hplain, hprotocol, hsrc, hlen, hfrom, hto, hlen', hid⟩, Option.some.inj hdata⟩
  · rintro ⟨⟨hplain, hprotocol, hsrc, hlen, hfrom, hto, hlen', hid⟩, rfl⟩
    exact ⟨_, _, ⟨hplain, rfl, rfl⟩, ⟨⟩, ⟨hprotocol, hsrc⟩, _, (hudp _).2 ⟨hlen, rfl⟩, ⟨⟩,
      ⟨hfrom, hto⟩, _, (hdns _).2 ⟨hlen', rfl⟩, ⟨⟩, hid, rfl⟩

lemma dnsAnswer?_eq_none {server : Ipv4Addr} {port id : UInt16} :
    dnsAnswer? server port id b = none ↔ ¬ AnswersQuery server port id b := by
  rw [Option.eq_none_iff_forall_ne_some]
  constructor
  · intro h hanswers
    exact h _ (dnsAnswer?_eq_some.2 ⟨hanswers, rfl⟩)
  · intro h data hanswer
    exact h (dnsAnswer?_eq_some.1 hanswer).1

/-- Whatever answers a question is not empty. -/
lemma TellsHardware.ne_nil (h : TellsHardware ip b) : b ≠ [] := by
  rintro rfl
  exact absurd h.length_le (by decide)

lemma Plain.ne_nil (h : Plain b) : b ≠ [] := by
  rintro rfl
  exact absurd h.length_le (by decide)

end Received

end PacketHost
