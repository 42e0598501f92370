/-!
Byte strings, and the big-endian words inside them.

Reading and writing are total: a position past the end reads as zero, and bytes written past the end
are lost. So a write never changes a length, and what a written string holds at a position can be
said without a side condition (`byteAt_overwrite`). Everything else that is known of a buffer
follows from that one equation.

`HoldsAt b off x` says that `x` can be read in `b` from position `off` on. It is how the laws of the
record layouts are stated, because it splits along `++`.
-/

namespace PacketHost

abbrev Bytes := List UInt8

namespace Bytes

def byteAt (b : Bytes) (i : Nat) : UInt8 := b.getD i 0

/-- The bytes from position `start` up to, not including, `stop`. -/
def slice (b : Bytes) (start stop : Nat) : Bytes := (b.drop start).take (stop - start)

/-- The second string laid over the first from a position on. -/
def overwrite : Bytes → Nat → Bytes → Bytes
  | [], _, _ => []
  | b :: bs, n + 1, src => b :: overwrite bs n src
  | b :: bs, 0, [] => b :: bs
  | _ :: bs, 0, s :: src => s :: overwrite bs 0 src

def HoldsAt (b : Bytes) (off : Nat) (x : Bytes) : Prop :=
  ∀ i < x.length, byteAt x i = byteAt b (off + i)

/-! ### Words -/

def highByte (w : UInt16) : UInt8 := .ofNat (w.toNat / 256)

def lowByte (w : UInt16) : UInt8 := .ofNat w.toNat

def word16 (high low : UInt8) : UInt16 := .ofNat (high.toNat * 256 + low.toNat)

def highWord (w : UInt32) : UInt16 := .ofNat (w.toNat / 65536)

def lowWord (w : UInt32) : UInt16 := .ofNat w.toNat

def word32 (high low : UInt16) : UInt32 := .ofNat (high.toNat * 65536 + low.toNat)

def word16At (b : Bytes) (i : Nat) : UInt16 := word16 (byteAt b i) (byteAt b (i + 1))

def word32At (b : Bytes) (i : Nat) : UInt32 := word32 (word16At b i) (word16At b (i + 2))

def ofWord16 (w : UInt16) : Bytes := [highByte w, lowByte w]

def ofWord32 (w : UInt32) : Bytes := ofWord16 (highWord w) ++ ofWord16 (lowWord w)

theorem toNat_word16 (high low : UInt8) :
    (word16 high low).toNat = high.toNat * 256 + low.toNat := by
  have := high.toNat_lt
  have := low.toNat_lt
  simp only [word16, UInt16.toNat_ofNat']
  omega

theorem toNat_word32 (high low : UInt16) :
    (word32 high low).toNat = high.toNat * 65536 + low.toNat := by
  have := high.toNat_lt
  have := low.toNat_lt
  simp only [word32, UInt32.toNat_ofNat']
  omega

@[simp] theorem highByte_word16 (high low : UInt8) : highByte (word16 high low) = high := by
  have := high.toNat_lt
  have := low.toNat_lt
  apply UInt8.toNat.inj
  simp only [highByte, toNat_word16, UInt8.toNat_ofNat']
  omega

@[simp] theorem lowByte_word16 (high low : UInt8) : lowByte (word16 high low) = low := by
  have := low.toNat_lt
  apply UInt8.toNat.inj
  simp only [lowByte, toNat_word16, UInt8.toNat_ofNat']
  omega

@[simp] theorem word16_highByte_lowByte (w : UInt16) : word16 (highByte w) (lowByte w) = w := by
  have := w.toNat_lt
  apply UInt16.toNat.inj
  simp only [toNat_word16, highByte, lowByte, UInt8.toNat_ofNat']
  omega

@[simp] theorem highWord_word32 (high low : UInt16) : highWord (word32 high low) = high := by
  have := high.toNat_lt
  have := low.toNat_lt
  apply UInt16.toNat.inj
  simp only [highWord, toNat_word32, UInt16.toNat_ofNat']
  omega

@[simp] theorem lowWord_word32 (high low : UInt16) : lowWord (word32 high low) = low := by
  have := low.toNat_lt
  apply UInt16.toNat.inj
  simp only [lowWord, toNat_word32, UInt16.toNat_ofNat']
  omega

@[simp] theorem word32_highWord_lowWord (w : UInt32) : word32 (highWord w) (lowWord w) = w := by
  have := w.toNat_lt
  apply UInt32.toNat.inj
  simp only [toNat_word32, highWord, lowWord, UInt16.toNat_ofNat']
  omega

/-! ### Reading -/

@[simp] theorem byteAt_nil (i : Nat) : byteAt [] i = 0 := rfl

@[simp] theorem byteAt_cons_zero (a : UInt8) (b : Bytes) : byteAt (a :: b) 0 = a := rfl

@[simp] theorem byteAt_cons_succ (a : UInt8) (b : Bytes) (i : Nat) :
    byteAt (a :: b) (i + 1) = byteAt b i := rfl

theorem byteAt_of_lt {b : Bytes} {i : Nat} (h : i < b.length) : byteAt b i = b[i] := by
  simp [byteAt, h]

theorem byteAt_of_length_le {b : Bytes} {i : Nat} (h : b.length ≤ i) : byteAt b i = 0 := by
  simp [byteAt, h]

theorem byteAt_append (a b : Bytes) (i : Nat) :
    byteAt (a ++ b) i = if i < a.length then byteAt a i else byteAt b (i - a.length) := by
  simp only [byteAt, List.getD_eq_getElem?_getD, List.getElem?_append]
  split <;> rfl

theorem byteAt_take (b : Bytes) (n i : Nat) :
    byteAt (b.take n) i = if i < n then byteAt b i else 0 := by
  simp only [byteAt, List.getD_eq_getElem?_getD, List.getElem?_take]
  split <;> rfl

@[simp] theorem byteAt_drop (b : Bytes) (n i : Nat) : byteAt (b.drop n) i = byteAt b (n + i) := by
  simp [byteAt]

theorem byteAt_slice (b : Bytes) (start stop i : Nat) :
    byteAt (slice b start stop) i = if i < stop - start then byteAt b (start + i) else 0 := by
  simp [slice, byteAt_take]

@[simp] theorem length_slice (b : Bytes) (start stop : Nat) :
    (slice b start stop).length = min (stop - start) (b.length - start) := by
  simp [slice]

/-- Strings of one length with the same bytes are equal. -/
theorem ext_byteAt {a b : Bytes} (hlen : a.length = b.length)
    (h : ∀ i < a.length, byteAt a i = byteAt b i) : a = b :=
  List.ext_getElem hlen fun i ha hb => by
    rw [← byteAt_of_lt ha, ← byteAt_of_lt hb, h i ha]

@[simp] theorem holdsAt_nil (b : Bytes) (off : Nat) : HoldsAt b off [] := by
  intro i h
  simp at h

@[simp] theorem holdsAt_cons (b : Bytes) (off : Nat) (a : UInt8) (x : Bytes) :
    HoldsAt b off (a :: x) ↔ a = byteAt b off ∧ HoldsAt b (off + 1) x := by
  constructor
  · intro h
    refine ⟨h 0 (by simp), fun i hi => ?_⟩
    have := h (i + 1) (by simpa using hi)
    simpa [Nat.add_comm, Nat.add_left_comm] using this
  · rintro ⟨h0, h⟩ i hi
    cases i with
    | zero => exact h0
    | succ i =>
      have := h i (by simpa using hi)
      simpa [Nat.add_comm, Nat.add_left_comm] using this

/-! ### Writing -/

@[simp] theorem length_overwrite (b : Bytes) (off : Nat) (src : Bytes) :
    (overwrite b off src).length = b.length := by
  fun_induction overwrite b off src <;> simp [*]

theorem byteAt_overwrite (b : Bytes) (off : Nat) (src : Bytes) (i : Nat) :
    byteAt (overwrite b off src) i =
      if off ≤ i ∧ i < off + src.length ∧ i < b.length then byteAt src (i - off) else byteAt b i := by
  fun_induction overwrite b off src generalizing i with
  | case1 => simp
  | case2 b bs n src ih =>
    cases i with
    | zero => simp
    | succ i => simp [ih, Nat.add_right_comm n 1 src.length]
  | case3 b bs =>
    rw [if_neg]
    simp only [List.length_nil]
    omega
  | case4 b bs s src ih =>
    cases i with
    | zero => simp
    | succ i => simp [ih]

@[simp] theorem overwrite_nil (b : Bytes) (off : Nat) : overwrite b off [] = b := by
  refine ext_byteAt (by simp) fun i _ => ?_
  rw [byteAt_overwrite, if_neg]
  simp only [List.length_nil]
  omega

/-- What was written where it fits is read back. -/
theorem holdsAt_overwrite {b : Bytes} {off : Nat} {src : Bytes}
    (h : off + src.length ≤ b.length) : HoldsAt (overwrite b off src) off src := by
  intro i hi
  rw [byteAt_overwrite, if_pos (by omega), Nat.add_sub_cancel_left]

/-- Writing back what a string holds changes nothing. -/
theorem overwrite_of_holdsAt {b : Bytes} {off : Nat} {src : Bytes} (h : HoldsAt b off src) :
    overwrite b off src = b := by
  refine ext_byteAt (by simp) fun i _ => ?_
  rw [byteAt_overwrite]
  split
  · rw [h _ (by omega)]
    congr 1
    omega
  · rfl

end Bytes

end PacketHost
