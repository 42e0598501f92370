import PacketHost.Arp
import PacketHost.Frame
import PacketHost.Ipv4
import PacketHost.Registry
import PacketHost.Settings
import PacketHost.Tcp
import PacketHost.Udp

/-!
Turning the record in the frame buffer into an answer to it.

Each layer writes its own header over the one it finds and hands the frame down: data, transport
header, IPv4 header, Ethernet header. Whatever a layer does not own stays as the peer sent it. Sizes
are checked before a layer writes anything, so a failure leaves the work of the layers above in the
buffer and nothing else.

A request of the host's own goes the same way: a record is staged as if the peer had sent it, and is
then answered.
-/

namespace PacketHost

open Bytes

/-- An answer as far as it got: the frame, and how many of its bytes go out, or why none do. -/
structure Prepared where
  frame : Frame
  result : Except NetError Nat

/-- Data is sent in an even number of bytes. -/
def evenLength (n : Nat) : Nat := n + n % 2

namespace Frame

variable (s : Settings) (f : Frame)

/-- Sends the first `len` bytes back to where the frame came from. -/
def answerEthernet (len : Nat) : Prepared :=
  if maxFrameLength < len then
    ⟨f, .error (.payloadTooLarge len maxFrameLength)⟩
  else
    ⟨f.put 0 ((f.get EthernetHeader 0).turnAround s.mac), .ok len⟩

/-- Sends `len` bytes after the IPv4 header back to where the packet came from. -/
def answerIpv4 (protocol : UInt8) (len : Nat) : Prepared :=
  if maxFrameLength < transportOffset + len then
    ⟨f, .error (.payloadTooLarge len (maxFrameLength - transportOffset))⟩
  else
    (f.put ipOffset ((f.get Ipv4Header ipOffset).answer protocol len)).answerEthernet s
      (transportOffset + len)

/-- Makes room for an even number of bytes: one of `len` bytes gets a zero after it. -/
def padEven (start len : Nat) : Frame :=
  if len % 2 = 0 then f else f.write (start + len) [0]

/-- Sends `len` bytes of data back to where the datagram came from. -/
def answerUdp (len : Nat) : Prepared :=
  let f := f.padEven udpDataOffset len
  let n := 8 + evenLength len
  let header := (f.get UdpHeader transportOffset).swapPorts
  let f := f.put transportOffset { header with length := .ofNat n, checksum := 0 }
  let ip := f.get Ipv4Header ipOffset
  let sum := udpChecksum ip.src ip.dst (f.slice transportOffset (transportOffset + n))
  let f := if s.fillUdpChecksums then f.write (transportOffset + 6) (ofWord16 sum) else f
  f.answerIpv4 s IpProtocol.udp n

/-- Sends a segment whose header is finished but for its checksum. -/
def finishTcp (headerLength dataLength : Nat) : Prepared :=
  let n := headerLength + dataLength
  if maxFrameLength < transportOffset + n then
    ⟨f, .error (.payloadTooLarge n (maxFrameLength - transportOffset))⟩
  else
    let ip := f.get Ipv4Header ipOffset
    let f := f.write (transportOffset + 16) (ofWord16 0)
    let sum := pseudoHeaderChecksum ip.src ip.dst IpProtocol.tcp
      (f.slice transportOffset (transportOffset + n))
    (f.write (transportOffset + 16) (ofWord16 sum)).answerIpv4 s IpProtocol.tcp n

variable (r : Registry)

/-- Sends `len` bytes of data after a segment's header, the ports of which have changed places. The
acknowledgment number counts the data without padding, unless the local port is framed. -/
def answerTcp (len : Nat) : Prepared :=
  let header := f.get TcpHeader transportOffset
  let offset := header.dataOffset
  if offset < 20 then
    ⟨f, .error (.sizeMismatch offset 20)⟩
  else
    let f := f.padEven (transportOffset + offset) len
    let header := if r.isFramed header.srcPort then header else header.advanceAck len
    (f.put transportOffset header).finishTcp s offset (evenLength len)

/-- The buffer holds an IPv4 packet of a protocol. How much of it has been received is not asked. -/
def holdsPacket (protocol : UInt8) : Bool :=
  let ip := f.get Ipv4Header ipOffset
  (f.get EthernetHeader 0).etherType == EtherType.ipv4 && ip.isPlain && ip.protocol == protocol

/-- Answers the datagram in the buffer with these bytes. -/
def sendUdp (data : Bytes) : Prepared :=
  let capacity := maxFrameLength - udpDataOffset - 1
  if f.holdsPacket IpProtocol.udp = false then
    ⟨f, .error (.protocolMismatch .udp)⟩
  else if capacity < data.length then
    ⟨f, .error (.payloadTooLarge data.length capacity)⟩
  else
    (f.write udpDataOffset data).answerUdp s data.length

/-- Answers the segment in the buffer with these bytes. -/
def sendTcp (data : Bytes) : Prepared :=
  let offset := (f.get TcpHeader transportOffset).dataOffset
  let start := transportOffset + offset
  let capacity := maxFrameLength - (start + 1)
  if f.holdsPacket IpProtocol.tcp = false then
    ⟨f, .error (.protocolMismatch .tcp)⟩
  else if offset < 20 then
    ⟨f, .error (.sizeMismatch offset 20)⟩
  else if capacity < data.length then
    ⟨f, .error (.payloadTooLarge data.length capacity)⟩
  else
    (f.write start data).answerTcp s r data.length

end Frame

end PacketHost
