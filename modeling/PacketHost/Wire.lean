import PacketHost.Bytes

/-!
Records with one fixed layout on the wire.

A layout is a width, a way to write a record and a way to read one at a position of a byte string.
`LawfulWire` says that the two belong together: reading what was written gives the record back, and
writing what was read gives the bytes back, so no bit of the layout is lost on either way. Both
directions are consequences here, for records inside a longer string as well.
-/

namespace PacketHost

open Bytes

class Wire (α : Type) where
  width : Nat
  encode : α → Bytes
  decode : Bytes → Nat → α

class LawfulWire (α : Type) [Wire α] : Prop where
  length_encode (a : α) : (Wire.encode a).length = Wire.width α
  decode_encode (a : α) : Wire.decode (Wire.encode a) 0 = a
  holdsAt_encode_decode (b : Bytes) (off : Nat) :
    HoldsAt b off (Wire.encode (Wire.decode b off : α))

namespace Wire

variable {α : Type} [Wire α]

/-- The record at the front of a byte string that is long enough to hold one. -/
def parse? (b : Bytes) : Option α :=
  if width α ≤ b.length then some (decode b 0) else none

/-- The record written over the front of a byte string that is long enough to hold it. -/
def write? (a : α) (b : Bytes) : Option Bytes :=
  if width α ≤ b.length then some (overwrite b 0 (encode a)) else none

variable [LawfulWire α]

open LawfulWire

/-- Reading looks at the bytes of the record only. -/
theorem decode_congr {b b' : Bytes} {off off' : Nat}
    (h : ∀ i < width α, byteAt b (off + i) = byteAt b' (off' + i)) :
    (decode b off : α) = decode b' off' := by
  have he : encode (decode b off : α) = encode (decode b' off' : α) := by
    refine ext_byteAt (by rw [length_encode, length_encode]) fun i hi => ?_
    rw [holdsAt_encode_decode b off i hi, h i (by rwa [length_encode] at hi),
      holdsAt_encode_decode b' off' i (by rwa [length_encode] at hi ⊢)]
  rw [← decode_encode (decode b off : α), he, decode_encode]

theorem decode_of_holdsAt {b : Bytes} {off : Nat} {a : α} (h : HoldsAt b off (encode a)) :
    decode b off = a := by
  rw [← decode_encode a]
  refine decode_congr fun i hi => ?_
  rw [← h i (by rwa [length_encode]), Nat.zero_add]

theorem decode_overwrite {b : Bytes} {off : Nat} (a : α) (h : off + width α ≤ b.length) :
    decode (overwrite b off (encode a)) off = a :=
  decode_of_holdsAt (holdsAt_overwrite (by rwa [length_encode]))

/-- The bytes of a record in a string are the record. -/
theorem slice_eq_encode {b : Bytes} {off : Nat} (h : off + width α ≤ b.length) :
    slice b off (off + width α) = encode (decode b off : α) := by
  refine ext_byteAt ?_ fun i hi => ?_
  · rw [length_slice, length_encode]
    omega
  · rw [length_slice] at hi
    rw [byteAt_slice, if_pos (by omega)]
    exact (holdsAt_encode_decode b off i (by rw [length_encode]; omega)).symm

/-- A record keeps the bytes that it has in common with the one it is written over. -/
theorem byteAt_overwrite_of_eq {b : Bytes} {off i : Nat} {a : α}
    (h : ∀ k < width α, i = off + k → byteAt (encode a) k = byteAt (encode (decode b off : α)) k) :
    byteAt (overwrite b off (encode a)) i = byteAt b i := by
  rw [byteAt_overwrite]
  split
  next hin =>
    rw [length_encode] at hin
    have hi : i = off + (i - off) := by omega
    have hk : i - off < (encode (decode b off : α)).length := by
      rw [length_encode]
      omega
    rw [h (i - off) (by omega) hi, holdsAt_encode_decode b off (i - off) hk, ← hi]
  · rfl

theorem overwrite_encode_decode (b : Bytes) (off : Nat) :
    overwrite b off (encode (decode b off : α)) = b :=
  overwrite_of_holdsAt (holdsAt_encode_decode b off)

end Wire

end PacketHost
