import PacketHost.Address

/-!
The Ethernet II header.
-/

namespace PacketHost

open Bytes

namespace EtherType

def ipv4 : UInt16 := 0x0800

def arp : UInt16 := 0x0806

end EtherType

structure EthernetHeader where
  dst : MacAddr
  src : MacAddr
  etherType : UInt16
  deriving DecidableEq

namespace EthernetHeader

instance : Wire EthernetHeader where
  width := 14
  encode h := h.dst.octets ++ h.src.octets ++ ofWord16 h.etherType
  decode b off := ⟨Wire.decode b off, Wire.decode b (off + 6), word16At b (off + 12)⟩

instance : LawfulWire EthernetHeader where
  length_encode _ := rfl
  decode_encode h := by
    simp [Wire.encode, Wire.decode, MacAddr.octets, ofWord16, word16At]
  holdsAt_encode_decode b off := by
    simp [Wire.encode, Wire.decode, MacAddr.octets, ofWord16, word16At, Nat.add_assoc]

/-- The header of an answer: back to whoever sent this one. -/
def turnAround (h : EthernetHeader) (self : MacAddr) : EthernetHeader :=
  { h with dst := h.src, src := self }

end EthernetHeader

end PacketHost
