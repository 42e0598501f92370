import PacketHost.Wire

/-!
Hardware addresses and internet addresses.
-/

namespace PacketHost

open Bytes

/-- A 48-bit Ethernet hardware address. -/
structure MacAddr where
  (o₀ o₁ o₂ o₃ o₄ o₅ : UInt8)
  deriving DecidableEq

namespace MacAddr

def broadcast : MacAddr := ⟨0xFF, 0xFF, 0xFF, 0xFF, 0xFF, 0xFF⟩

def zero : MacAddr := ⟨0, 0, 0, 0, 0, 0⟩

def octets (m : MacAddr) : Bytes := [m.o₀, m.o₁, m.o₂, m.o₃, m.o₄, m.o₅]

instance : Wire MacAddr where
  width := 6
  encode := octets
  decode b off := ⟨byteAt b off, byteAt b (off + 1), byteAt b (off + 2), byteAt b (off + 3),
    byteAt b (off + 4), byteAt b (off + 5)⟩

instance : LawfulWire MacAddr where
  length_encode _ := rfl
  decode_encode _ := rfl
  holdsAt_encode_decode b off := by simp [Wire.encode, Wire.decode, octets, Nat.add_assoc]

end MacAddr

/-- An IPv4 address. -/
structure Ipv4Addr where
  (o₀ o₁ o₂ o₃ : UInt8)
  deriving DecidableEq

namespace Ipv4Addr

def octets (a : Ipv4Addr) : Bytes := [a.o₀, a.o₁, a.o₂, a.o₃]

instance : Wire Ipv4Addr where
  width := 4
  encode := octets
  decode b off := ⟨byteAt b off, byteAt b (off + 1), byteAt b (off + 2), byteAt b (off + 3)⟩

instance : LawfulWire Ipv4Addr where
  length_encode _ := rfl
  decode_encode _ := rfl
  holdsAt_encode_decode b off := by simp [Wire.encode, Wire.decode, octets, Nat.add_assoc]

end Ipv4Addr

end PacketHost
