import PacketHost.Icmp
import PacketHost.Journal
import PacketHost.Reply

/-!
What a host makes of a received frame, before anything is sent.

The lengths that the nested headers claim bound each other: a packet ends where its total length
says or where the frame does, whichever comes first, and what a datagram or a segment carries ends
within the packet. Behind it stands a zero byte, where the buffer goes on.
-/

namespace PacketHost

open Bytes

/-- An application's turn, as it can be seen from outside. -/
structure Delivery where
  handler : String
  request : Bytes
  capacity : Nat
  remoteIp : Ipv4Addr
  remotePort : UInt16
  localPort : UInt16
  outcomes : List (Except NetError Unit)
  /-- What stands in the place of the request when the application is done. -/
  after : Bytes

structure Reaction where
  frame : Frame
  notes : List Note := []
  delivery : Option Delivery := none
  /-- An answer, with how many bytes of the frame it is, or why it cannot be sent. -/
  reply : Option (ReplyKind × Except NetError Nat) := none

namespace Reaction

def answering (kind : ReplyKind) (p : Prepared) : Reaction :=
  { frame := p.frame, reply := some (kind, p.result) }

def note (r : Reaction) (n : Note) : Reaction := { r with notes := r.notes ++ [n] }

end Reaction

namespace Frame

variable (s : Settings) (r : Registry) (turn : Nat) (f : Frame)

/-- Puts an end to received data. -/
def terminate (stop : Nat) : Frame := f.write stop [0]

/-- Gives a handler its turn over the region that starts at `start`. The result is the frame, the
length of the answer if there is one, and how it went. -/
def deliver (h : Handler) (start len : Nat) (remoteIp : Ipv4Addr) (remotePort localPort : UInt16) :
    Frame × Option Nat × Delivery :=
  let x := Exchange.start (f.slice start maxFrameLength) len remoteIp remotePort localPort
  let done := x.performAll (h.respond turn x)
  (f.write start done.2.region, done.2.reply,
    { handler := h.name, request := x.request, capacity := x.capacity, remoteIp, remotePort,
      localPort, outcomes := done.1, after := done.2.request })

def readArp (len : Nat) : Reaction :=
  match f.get? ArpPacket ipOffset len with
  | none => { frame := f, notes := [.otherArp] }
  | some p =>
    if p.isRequestFor s.ip then
      let a := p.answer s.mac s.ip
      (Reaction.answering .arp ((f.put ipOffset a).answerEthernet s (ipOffset + 28))).note
        (.answeringArp a.targetHw a.targetIp)
    else
      { frame := f, notes := [.otherArp] }

def readIcmp (len : Nat) : Reaction :=
  if len < 8 then
    { frame := f }
  else
    match Icmp.echoReply? (f.slice transportOffset (transportOffset + len)) with
    | none => { frame := f, notes := [.otherIcmp (f.byte transportOffset)] }
    | some message =>
      (Reaction.answering .echo
        ((f.write transportOffset message).answerIpv4 s IpProtocol.icmp len)).note
          (.answeringEcho len)

def readUdp (ip : Ipv4Header) (len : Nat) : Reaction :=
  match f.get? UdpHeader transportOffset (transportOffset + len) with
  | none => { frame := f }
  | some udp =>
    let n := min udp.payloadLength (len - 8)
    let f := f.terminate (udpDataOffset + n)
    match r.udpHandler? udp.dstPort with
    | none => { frame := f, notes := [.noUdpHandler udp.dstPort] }
    | some h =>
      match f.deliver turn h udpDataOffset n ip.src udp.srcPort udp.dstPort with
      | (f, none, d) => { frame := f, delivery := some d }
      | (f, some n, d) => { Reaction.answering .udp (f.answerUdp s n) with delivery := some d }

def readTcp (ip : Ipv4Header) (len : Nat) : Reaction :=
  match f.get? TcpHeader transportOffset (transportOffset + len) with
  | none => { frame := f }
  | some tcp =>
    let offset := tcp.dataOffset
    if offset < 20 ∨ len < offset then
      { frame := f, notes := [.badDataOffset offset] }
    else if tcp.has TcpFlag.psh = false then
      let reply := tcp.controlReply
      (Reaction.answering .tcpControl ((f.put transportOffset reply).finishTcp s 20 0)).note
        (.answeringControl reply.srcPort reply.flags)
    else
      -- the handler's answer goes out under the header as it is turned here
      let f := f.put transportOffset tcp.swapForReply
      match r.tcpHandler? tcp.dstPort with
      | none => { frame := f, notes := [.noTcpHandler tcp.dstPort] }
      | some h =>
        match f.deliver turn h (transportOffset + offset) (len - offset) ip.src tcp.srcPort
            tcp.dstPort with
        | (f, none, d) => { frame := f, delivery := some d }
        | (f, some n, d) =>
          { Reaction.answering .tcpData (f.answerTcp s r n) with delivery := some d }

def readIpv4 (len : Nat) : Reaction :=
  match f.get? Ipv4Header ipOffset len with
  | none => { frame := f }
  | some ip =>
    if ip.isPlain = false ∨ ip.dst ≠ s.ip then
      { frame := f, notes := [.otherDestination ip.dst] }
    else if s.verifyChecksums ∧ ip.checksumValid = false then
      { frame := f, notes := [.badHeaderChecksum] }
    else
      let total := min ip.totalLength.toNat (len - ipOffset)
      if total < 20 then
        { frame := f }
      else
        let f := f.terminate (ipOffset + total)
        let n := total - 20
        if ip.protocol = IpProtocol.icmp then f.readIcmp s n
        else if ip.protocol = IpProtocol.tcp then f.readTcp s r turn ip n
        else if ip.protocol = IpProtocol.udp then f.readUdp s r turn ip n
        else { frame := f, notes := [.otherProtocol ip.protocol] }

/-- The reaction to the frame in the first `len` bytes. -/
def react (len : Nat) : Reaction :=
  if len ≤ ipOffset then
    { frame := f, notes := [.runt len] }
  else
    let etherType := (f.get EthernetHeader 0).etherType
    if etherType = EtherType.arp then f.readArp s len
    else if etherType = EtherType.ipv4 then f.readIpv4 s r turn len
    else { frame := f, notes := [.otherEtherType etherType] }

end Frame

end PacketHost
