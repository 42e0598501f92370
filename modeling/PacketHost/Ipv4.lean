import PacketHost.Checksum

/-!
The IPv4 header without options.

Nothing is judged when a header is read. The host takes only the plain shape (`isPlain`), and sends
no other.
-/

namespace PacketHost

open Bytes

namespace IpProtocol

def icmp : UInt8 := 1

def tcp : UInt8 := 6

def udp : UInt8 := 17

end IpProtocol

structure Ipv4Header where
  versionIhl : UInt8
  tos : UInt8
  totalLength : UInt16
  id : UInt16
  flagsFragment : UInt16
  ttl : UInt8
  protocol : UInt8
  checksum : UInt16
  src : Ipv4Addr
  dst : Ipv4Addr
  deriving DecidableEq

namespace Ipv4Header

/-- Version 4, a header of five words. -/
def plainVersionIhl : UInt8 := 0x45

def defaultTtl : UInt8 := 128

instance : Wire Ipv4Header where
  width := 20
  encode h := [h.versionIhl, h.tos] ++ ofWord16 h.totalLength ++ ofWord16 h.id ++
    ofWord16 h.flagsFragment ++ [h.ttl, h.protocol] ++ ofWord16 h.checksum ++ h.src.octets ++
    h.dst.octets
  decode b off :=
    { versionIhl := byteAt b off
      tos := byteAt b (off + 1)
      totalLength := word16At b (off + 2)
      id := word16At b (off + 4)
      flagsFragment := word16At b (off + 6)
      ttl := byteAt b (off + 8)
      protocol := byteAt b (off + 9)
      checksum := word16At b (off + 10)
      src := Wire.decode b (off + 12)
      dst := Wire.decode b (off + 16) }

instance : LawfulWire Ipv4Header where
  length_encode _ := rfl
  decode_encode h := by simp [Wire.encode, Wire.decode, Ipv4Addr.octets, ofWord16, word16At]
  holdsAt_encode_decode b off := by
    simp [Wire.encode, Wire.decode, Ipv4Addr.octets, ofWord16, word16At, Nat.add_assoc]

/-- A header as the host sends it, its checksum still to be filled in. -/
def outgoing (protocol : UInt8) (id : UInt16) (src dst : Ipv4Addr) (payloadLength : Nat) :
    Ipv4Header :=
  { versionIhl := plainVersionIhl, tos := 0, totalLength := .ofNat (20 + payloadLength), id,
    flagsFragment := 0, ttl := defaultTtl, protocol, checksum := 0, src, dst }

def isPlain (h : Ipv4Header) : Bool := h.versionIhl == plainVersionIhl

/-- In bytes, as the header itself says. -/
def headerLength (h : Ipv4Header) : Nat := (h.versionIhl &&& 0x0F).toNat * 4

/-- Zero where the total length does not even cover the header. -/
def payloadLength (h : Ipv4Header) : Nat := h.totalLength.toNat - h.headerLength

/-- The checksum is taken with its own field at zero. -/
def withChecksum (h : Ipv4Header) : Ipv4Header :=
  { h with checksum := PacketHost.checksum (Wire.encode { h with checksum := 0 }) }

def checksumValid (h : Ipv4Header) : Bool := PacketHost.checksum (Wire.encode h) == 0

def swapAddresses (h : Ipv4Header) : Ipv4Header := { h with src := h.dst, dst := h.src }

/-- The header of the answer to this one. Of the request it keeps the identifier, and the two
addresses in exchanged places. -/
def answer (h : Ipv4Header) (protocol : UInt8) (payloadLength : Nat) : Ipv4Header :=
  (outgoing protocol h.id h.dst h.src payloadLength).withChecksum

end Ipv4Header

end PacketHost
