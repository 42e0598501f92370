import PacketHost.Dns.Message
import PacketHost.Wait

/-!
What a host asks of others: a hardware address, a sign of life, the address of a name.

Each question is sent, and then the device is polled so many times at most for a frame that answers
it. Other frames that arrive meanwhile are dropped. The hardware address of the one to be asked is
always asked for first, with a budget of its own.
-/

namespace PacketHost

open Bytes

/-- The IPv4 header and payload in a received frame, if it is a plain packet. The payload ends where
the total length says or where the frame does. -/
def ipv4Packet? (frame : Bytes) : Option (Ipv4Header × Bytes) := do
  let eth : EthernetHeader ← Wire.parse? frame
  guard (eth.etherType = EtherType.ipv4)
  let ip : Ipv4Header ← Wire.parse? (frame.drop ipOffset)
  guard ip.isPlain
  let stop := min (ipOffset + ip.totalLength.toNat) frame.length
  guard (transportOffset ≤ stop)
  return (ip, slice frame transportOffset stop)

/-- The hardware address of `ip`, in a frame that tells it. -/
def arpAnswer? (ip : Ipv4Addr) (frame : Bytes) : Option MacAddr := do
  let eth : EthernetHeader ← Wire.parse? frame
  guard (eth.etherType = EtherType.arp)
  let p : ArpPacket ← Wire.parse? (frame.drop ipOffset)
  guard (p.isReplyFrom ip)
  return p.senderHw

/-- The frame is the reply to an echo request sent from `self` to `ip`. -/
def echoAnswer? (self ip : Ipv4Addr) (identifier sequence : UInt16) (frame : Bytes) :
    Option Unit := do
  let (header, payload) ← ipv4Packet? frame
  guard (header.protocol = IpProtocol.icmp ∧ header.src = ip ∧ header.dst = self)
  let icmp : IcmpHeader ← Wire.parse? payload
  guard (icmp.isEchoReply ∧ icmp.identifier = identifier ∧ icmp.sequence = sequence)

def dnsPort : UInt16 := 53

/-- The message in a frame that answers the query with this identifier. -/
def dnsAnswer? (server : Ipv4Addr) (port id : UInt16) (frame : Bytes) : Option Bytes := do
  let (header, payload) ← ipv4Packet? frame
  guard (header.protocol = IpProtocol.udp ∧ header.src = server)
  let udp : UdpHeader ← Wire.parse? payload
  guard (udp.srcPort = dnsPort ∧ udp.dstPort = port)
  let message := slice payload 8 (min (8 + udp.payloadLength) payload.length)
  let dns : DnsHeader ← Wire.parse? message
  guard (dns.id = id)
  return message

/-- What echo requests carry. -/
def pingPayload : Bytes := "abcdefghijklmnopqrstuvwabcdefghi".toUTF8.data.toList

namespace Frame

variable (s : Settings) (f : Frame)

def stageArpRequest (ip : Ipv4Addr) : Frame :=
  (f.put 0 (EthernetHeader.mk .broadcast s.mac EtherType.arp)).put ipOffset
    (ArpPacket.request s.mac s.ip ip)

/-- A packet without payload as if the peer had sent it to this host. -/
def stagePacket (peerHw : MacAddr) (protocol : UInt8) (peer : Ipv4Addr) (id : UInt16) : Frame :=
  (f.put 0 (EthernetHeader.mk s.mac peerHw EtherType.ipv4)).put ipOffset
    (Ipv4Header.outgoing protocol id peer s.ip 0)

/-- An echo request, with its checksum. -/
def stageEchoRequest (identifier sequence : UInt16) : Frame :=
  let message := Wire.encode (IcmpHeader.echoRequest identifier sequence) ++ pingPayload
  f.write transportOffset (Icmp.fillChecksum message)

/-- A name query, behind the header of a datagram as if it came from the server. -/
def stageQuery (id : UInt16) (name : String) : Except NetError Nat × Frame :=
  let f := f.put transportOffset (UdpHeader.mk dnsPort s.dnsSourcePort 0 0)
  let query := Dns.buildQuery id name (f.slice udpDataOffset (maxFrameLength - 1))
  (query.1, f.write udpDataOffset query.2)

end Frame

/-- Where in the frame buffer the address of a name has been found. -/
structure NameAnswer where
  offset : Nat
  address : Ipv4Addr

namespace Host

variable {δ : Type} [Device δ]

/-- Asks who has an internet address. -/
def resolve (ip : Ipv4Addr) (budget : Nat) : Task δ MacAddr := do
  modify fun h => { h with frame := h.frame.stageArpRequest h.settings ip }
  transmit (ipOffset + 28)
  let (hw, polls) ← waitFor budget (arpAnswer? ip)
  modify (·.note (.resolved ip hw polls))
  return hw

/-- Asks a host for an echo, and gives the number of polls that its reply took. -/
def ping (ip : Ipv4Addr) (budget : Nat) : Task δ Nat := do
  let hw ← resolve ip budget
  modify fun h => { h with pingSequence := h.pingSequence + 1 }
  let h ← get
  let staged := (h.frame.stagePacket h.settings hw IpProtocol.icmp ip h.pingSequence).stageEchoRequest
    h.settings.pingIdentifier h.pingSequence
  finish (staged.answerIpv4 h.settings IpProtocol.icmp (8 + pingPayload.length))
  let ((), polls) ← waitFor budget
    (echoAnswer? h.settings.ip ip h.settings.pingIdentifier h.pingSequence)
  modify (·.note (.echoed ip polls))
  return polls

/-- Asks a server for the address of a name. The first frame that answers the query decides: if no
address can be found in it, that is the result. -/
def resolveName (server : Ipv4Addr) (name : String) (budget : Nat) : Task δ NameAnswer := do
  let hw ← resolve server budget
  let h ← get
  let id := h.dnsTransaction
  let (length?, staged) :=
    (h.frame.stagePacket h.settings hw IpProtocol.udp server id).stageQuery h.settings id name
  modify fun h => { h with dnsTransaction := id + 1, frame := staged }
  let length ← length?
  finish (staged.answerUdp h.settings length)
  modify (·.note (.queried id name server))
  let (message, polls) ← waitFor budget (dnsAnswer? server h.settings.dnsSourcePort id)
  let off ← Dns.answerOffset message
  modify (·.note (.nameAnswered name polls))
  let offset := udpDataOffset + off
  return { offset, address := (← get).frame.get Ipv4Addr offset }

end Host

end PacketHost
