import Mathlib.Tactic.Lemma
import PacketHost.Frame

/-!
Which bytes of a frame buffer a write can be seen in.

Two frames agree on a range if they have the same bytes there. The one relation serves for two
purposes. Between a frame and what has been written into it, agreement says what a write has left
alone. Between the frames of two runs, it says how far the runs cannot be told apart. Reading a
record or a slice inside a range where two frames agree gives the same on both.

A frame holds a received frame if it begins with its bytes; what stands behind them is left over
from earlier frames.
-/

namespace PacketHost

open Bytes

namespace Frame

def AgreeOn (start stop : Nat) (f g : Frame) : Prop :=
  ∀ i, start ≤ i → i < stop → f.byte i = g.byte i

variable {start stop off : Nat} {f g : Frame} {src : Bytes}

namespace AgreeOn

lemma refl (start stop : Nat) (f : Frame) : AgreeOn start stop f f := fun _ _ _ => rfl

lemma symm (h : AgreeOn start stop f g) : AgreeOn start stop g f :=
  fun i h1 h2 => (h i h1 h2).symm

lemma trans {k : Frame} (hfg : AgreeOn start stop f g) (hgk : AgreeOn start stop g k) :
    AgreeOn start stop f k :=
  fun i h1 h2 => (hfg i h1 h2).trans (hgk i h1 h2)

lemma mono (h : AgreeOn start stop f g) {start' stop' : Nat} (h1 : start ≤ start')
    (h2 : stop' ≤ stop) : AgreeOn start' stop' f g :=
  fun i hi hi' => h i (by omega) (by omega)

lemma get_eq {α : Type} [Wire α] [LawfulWire α] (h : AgreeOn start stop f g) (h1 : start ≤ off)
    (h2 : off + Wire.width α ≤ stop) : f.get α off = g.get α off :=
  Wire.decode_congr fun i hi => h (off + i) (by omega) (by omega)

lemma slice_eq (h : AgreeOn start stop f g) {a b : Nat} (h1 : start ≤ a) (h2 : b ≤ stop) :
    f.slice a b = g.slice a b := by
  refine ext_byteAt (by simp [slice, f.size_eq, g.size_eq]) fun i _ => ?_
  simp only [slice, byteAt_slice]
  split
  · exact h (a + i) (by omega) (by omega)
  · rfl

lemma write (h : AgreeOn start stop f g) (off : Nat) (src : Bytes) :
    AgreeOn start stop (f.write off src) (g.write off src) := by
  intro i h1 h2
  simp only [byte_write]
  split
  · rfl
  · exact h i h1 h2

/-- What is written into both frames right behind the range joins it. -/
lemma write_extend (h : AgreeOn start stop f g) (hoff : off ≤ stop) (src : Bytes) :
    AgreeOn start (off + src.length) (f.write off src) (g.write off src) := by
  intro i h1 h2
  simp only [byte_write]
  split
  · rfl
  next hout =>
    by_cases hi : i < stop
    · exact h i h1 hi
    · -- behind the end of the buffer
      have hf : frameSize ≤ i := by omega
      rw [byte, byte, byteAt_of_length_le (by rw [f.size_eq]; exact hf),
        byteAt_of_length_le (by rw [g.size_eq]; exact hf)]

lemma put {α : Type} [Wire α] (h : AgreeOn start stop f g) (off : Nat) (a : α) :
    AgreeOn start stop (f.put off a) (g.put off a) :=
  h.write off _

end AgreeOn

/-! ### What a write leaves alone -/

lemma agreeOn_write (h : off + src.length ≤ start ∨ stop ≤ off) :
    AgreeOn start stop (f.write off src) f := by
  intro i h1 h2
  rw [byte_write, if_neg (by omega)]

lemma agreeOn_put {α : Type} [Wire α] [LawfulWire α] {a : α}
    (h : off + Wire.width α ≤ start ∨ stop ≤ off) : AgreeOn start stop (f.put off a) f :=
  agreeOn_write (by rwa [LawfulWire.length_encode])

@[simp] lemma length_slice (f : Frame) (start stop : Nat) :
    (f.slice start stop).length = min (stop - start) (frameSize - start) := by
  rw [slice, Bytes.length_slice, f.size_eq]

lemma byteAt_slice (f : Frame) (start stop i : Nat) :
    byteAt (f.slice start stop) i = if i < stop - start then f.byte (start + i) else 0 :=
  Bytes.byteAt_slice f.bytes start stop i

/-- A write inside a slice is a write into the slice. -/
lemma slice_write (h : start ≤ off) :
    (f.write off src).slice start stop = overwrite (f.slice start stop) (off - start) src := by
  refine ext_byteAt (by simp) fun i hi => ?_
  simp only [length_slice] at hi
  rw [byteAt_slice, byteAt_overwrite, length_slice, byteAt_slice, byte_write]
  have hpos : i < stop - start := by omega
  rw [if_pos hpos, if_pos hpos]
  by_cases hin : off ≤ start + i ∧ start + i < off + src.length ∧ start + i < frameSize
  · rw [if_pos hin, if_pos (by omega)]
    congr 1
    omega
  · rw [if_neg hin, if_neg (by omega)]

/-- What has been written is read back. -/
lemma slice_write_self (h : off + src.length ≤ frameSize) :
    (f.write off src).slice off (off + src.length) = src := by
  refine ext_byteAt ?_ fun i hi => ?_
  · rw [length_slice]
    omega
  · rw [length_slice] at hi
    rw [byteAt_slice, if_pos (by omega), byte_write, if_pos (by omega), Nat.add_sub_cancel_left]

lemma byte_write_slice (f g : Frame) (start stop i : Nat) (h : stop ≤ frameSize) :
    (f.write start (g.slice start stop)).byte i =
      if start ≤ i ∧ i < stop then g.byte i else f.byte i := by
  rw [byte_write, length_slice]
  by_cases hin : start ≤ i ∧ i < stop
  · rw [if_pos hin, if_pos (by omega), byteAt_slice, if_pos (by omega)]
    congr 1
    omega
  · rw [if_neg hin, if_neg (by omega)]

@[simp] lemma write_nil (f : Frame) (off : Nat) : f.write off [] = f := by
  ext i
  rw [byte_write, if_neg (by simp only [List.length_nil]; omega)]

lemma write_slice (f : Frame) (h : stop ≤ frameSize) : f.write start (f.slice start stop) = f := by
  ext i
  rw [byte_write_slice f f start stop i h]
  split <;> rfl

/-- A record that is put back where it was read from changes nothing. -/
lemma put_get (f : Frame) (α : Type) [Wire α] [LawfulWire α] (off : Nat) :
    f.put off (f.get α off) = f := by
  ext i
  simp only [put, write, get, byte, Wire.overwrite_encode_decode]

/-- A later write inside an earlier one changes what the earlier one wrote. -/
lemma write_write_inside {src' : Bytes} {k : Nat} (h : k + src'.length ≤ src.length) :
    (f.write off src).write (off + k) src' = f.write off (overwrite src k src') := by
  ext i
  simp only [byte_write, length_overwrite, byteAt_overwrite]
  by_cases hin : off + k ≤ i ∧ i < off + k + src'.length ∧ i < frameSize
  · rw [if_pos hin, if_pos (by omega), if_pos (by omega), Nat.sub_sub]
  · rw [if_neg hin]
    split
    · rw [if_neg (by omega)]
    · rfl

/-! ### Slices -/

lemma take_bytes (f : Frame) (n : Nat) : f.bytes.take n = f.slice 0 n := by
  simp [slice, Bytes.slice]

lemma drop_slice (f : Frame) (n k : Nat) : (f.slice 0 n).drop k = f.slice k n := by
  simp [slice, Bytes.slice, List.drop_take]

lemma slice_slice (f : Frame) {start stop n : Nat} (h : stop ≤ n) :
    Bytes.slice (f.slice 0 n) start stop = f.slice start stop := by
  rw [Bytes.slice, drop_slice, slice, slice, Bytes.slice, Bytes.slice, List.take_take,
    Nat.min_eq_left (by omega)]

lemma decode_slice {α : Type} [Wire α] [LawfulWire α] (f : Frame)
    (h : off + Wire.width α ≤ stop - start) :
    (Wire.decode (f.slice start stop) off : α) = f.get α (start + off) :=
  Wire.decode_congr fun i hi => by
    rw [byteAt_slice, if_pos (by omega), Nat.add_assoc]
    rfl

/-- The bytes of a record are the record. -/
lemma slice_eq_encode {α : Type} [Wire α] [LawfulWire α] (f : Frame)
    (h : off + Wire.width α ≤ frameSize) :
    f.slice off (off + Wire.width α) = Wire.encode (f.get α off) :=
  Wire.slice_eq_encode (by rwa [f.size_eq])

/-! ### What has been received -/

lemma get?_of_le {α : Type} [Wire α] (f : Frame) (h : off + Wire.width α ≤ stop) :
    f.get? α off stop = some (f.get α off) :=
  if_pos h

lemma get?_of_lt {α : Type} [Wire α] (f : Frame) (h : stop < off + Wire.width α) :
    f.get? α off stop = none :=
  if_neg (Nat.not_le.2 h)

structure Holds (f : Frame) (b : Bytes) : Prop where
  length_le : b.length ≤ frameSize
  byte_eq : ∀ i < b.length, f.byte i = byteAt b i

lemma holds_write (f : Frame) {b : Bytes} (h : b.length ≤ frameSize) : (f.write 0 b).Holds b := by
  refine ⟨h, fun i hi => ?_⟩
  rw [byte_write, if_pos (by omega), Nat.sub_zero]

namespace Holds

variable {b : Bytes}

lemma agreeOn (hf : f.Holds b) (hg : g.Holds b) : AgreeOn 0 b.length f g :=
  fun i _ hi => (hf.byte_eq i hi).trans (hg.byte_eq i hi).symm

lemma get_eq {α : Type} [Wire α] [LawfulWire α] (hf : f.Holds b)
    (h : off + Wire.width α ≤ b.length) : f.get α off = Wire.decode b off :=
  Wire.decode_congr fun i hi => hf.byte_eq (off + i) (by omega)

lemma get?_eq {α : Type} [Wire α] [LawfulWire α] (hf : f.Holds b)
    (h : off + Wire.width α ≤ b.length) : f.get? α off b.length = some (Wire.decode b off) := by
  rw [get?_of_le f h, hf.get_eq h]

lemma slice_eq (hf : f.Holds b) (h : stop ≤ b.length) :
    f.slice start stop = Bytes.slice b start stop := by
  have := hf.length_le
  refine ext_byteAt ?_ fun i _ => ?_
  · simp only [length_slice, Bytes.length_slice]
    omega
  · rw [byteAt_slice, Bytes.byteAt_slice]
    split
    · exact hf.byte_eq (start + i) (by omega)
    · rfl

end Holds

end Frame

end PacketHost
