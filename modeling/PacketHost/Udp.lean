import PacketHost.Ipv4

/-!
The UDP header and its checksum.
-/

namespace PacketHost

open Bytes

structure UdpHeader where
  srcPort : UInt16
  dstPort : UInt16
  length : UInt16
  checksum : UInt16
  deriving DecidableEq

namespace UdpHeader

instance : Wire UdpHeader where
  width := 8
  encode h := ofWord16 h.srcPort ++ ofWord16 h.dstPort ++ ofWord16 h.length ++ ofWord16 h.checksum
  decode b off := ⟨word16At b off, word16At b (off + 2), word16At b (off + 4), word16At b (off + 6)⟩

instance : LawfulWire UdpHeader where
  length_encode _ := rfl
  decode_encode h := by simp [Wire.encode, Wire.decode, ofWord16, word16At]
  holdsAt_encode_decode b off := by
    simp [Wire.encode, Wire.decode, ofWord16, word16At, Nat.add_assoc]

/-- What the length field leaves for data, zero if it does not even cover the header. -/
def payloadLength (h : UdpHeader) : Nat := h.length.toNat - 8

def swapPorts (h : UdpHeader) : UdpHeader := { h with srcPort := h.dstPort, dstPort := h.srcPort }

end UdpHeader

/-- The checksum of a datagram whose checksum field is zero. A zero in the field means that there is
no checksum, so a sum of zero is sent in its other form. -/
def udpChecksum (src dst : Ipv4Addr) (datagram : Bytes) : UInt16 :=
  let c := pseudoHeaderChecksum src dst IpProtocol.udp datagram
  if c = 0 then 0xFFFF else c

end PacketHost
