import Mathlib.Tactic.Lemma
import PacketHost.Proofs.Agreement

/-!
Operations that refuse to go out of range.

The operations on byte strings are total: what lies outside a string reads as zero, a write past the
end is lost, and a difference does not go below zero. So a program made of them cannot go wrong, and
that it never means to read outside its buffer is not seen from it. Here are the same operations
with a check in front, which end in a fault instead. Each of them comes with the condition under
which it does the same as the total one.

What an application writes by itself is checked too, and such a write has a fault of its own: a
computation in which applications take part is what it should be up to faults of that kind
(`Guarded.EqUpTo`).
-/

namespace PacketHost

open Bytes

inductive Fault
  /-- A part of a string that is not inside it, or that ends before it starts. -/
  | range (start stop length : Nat)
  | index (i length : Nat)
  /-- Bytes for a part that has not just their number, or not enough room for them. -/
  | mismatch (length room : Nat)
  /-- A record from fewer bytes than it has. -/
  | short (length width : Nat)
  /-- A difference below zero. -/
  | underflow (a b : Nat)
  /-- A number cut to the width of a field. -/
  | truncated (n bound : Nat)
  /-- A sum of more than 32 bits. -/
  | overflow (sum : Nat)
  /-- A write of an application's own past the room that it has been given. -/
  | stray (off length capacity : Nat)
  deriving DecidableEq

/-- A computation that ends at the first operation that goes out of range. -/
abbrev Guarded := Except Fault

namespace Guarded

/-! ### Checks -/

def require (p : Prop) [Decidable p] (fault : Fault) : Guarded Unit :=
  if p then pure () else throw fault

lemma require_eq {p : Prop} [Decidable p] {fault : Fault} (h : p) :
    require p fault = pure () :=
  if_pos h

lemma require_of_not {p : Prop} [Decidable p] {fault : Fault} (h : ¬ p) :
    require p fault = throw fault :=
  if_neg h

/-! ### The same up to faults of one kind -/

section

variable {α β : Type} {own own' : Fault → Prop} {g : Guarded α} {a : α}

/-- The computation gives this result, unless it ends in a fault of the kind. -/
def EqUpTo (own : Fault → Prop) (g : Guarded α) (a : α) : Prop :=
  g = pure a ∨ ∃ fault, own fault ∧ g = throw fault

namespace EqUpTo

lemma of_eq (h : g = pure a) : EqUpTo own g a := .inl h

lemma of_fault {fault : Fault} (hown : own fault) (h : g = throw fault) : EqUpTo own g a :=
  .inr ⟨fault, hown, h⟩

lemma mono (h : EqUpTo own g a) (hown : ∀ fault, own fault → own' fault) : EqUpTo own' g a := by
  rcases h with h | ⟨fault, hfault, h⟩
  · exact .of_eq h
  · exact .of_fault (hown fault hfault) h

lemma bind {k : α → Guarded β} {b : β} (hg : EqUpTo own g a) (hk : EqUpTo own (k a) b) :
    EqUpTo own (g >>= k) b := by
  rcases hg with rfl | ⟨fault, hfault, rfl⟩
  · rwa [pure_bind]
  · exact .of_fault hfault rfl

/-- Where there is no fault of the kind, it makes no difference. -/
lemma eq (h : EqUpTo own g a) (hown : ∀ fault, ¬ own fault) : g = pure a := by
  rcases h with h | ⟨fault, hfault, -⟩
  · exact h
  · exact absurd hfault (hown fault)

end EqUpTo

end

/-! ### Byte strings -/

variable {b src : Bytes} {start stop i : Nat}

def slice (b : Bytes) (start stop : Nat) : Guarded Bytes := do
  require (start ≤ stop ∧ stop ≤ b.length) (.range start stop b.length)
  return Bytes.slice b start stop

def index (b : Bytes) (i : Nat) : Guarded UInt8 := do
  require (i < b.length) (.index i b.length)
  return byteAt b i

def setByte (b : Bytes) (i : Nat) (v : UInt8) : Guarded Bytes := do
  require (i < b.length) (.index i b.length)
  return overwrite b i [v]

/-- Writes bytes to the front of a part of a string. -/
def store (b : Bytes) (start stop : Nat) (src : Bytes) : Guarded Bytes := do
  require (start ≤ stop ∧ stop ≤ b.length) (.range start stop b.length)
  require (src.length ≤ stop - start) (.mismatch src.length (stop - start))
  return overwrite b start src

/-- Writes bytes over a part of a string that is as long as they are. -/
def copy (b : Bytes) (start stop : Nat) (src : Bytes) : Guarded Bytes := do
  require (start ≤ stop ∧ stop ≤ b.length) (.range start stop b.length)
  require (src.length = stop - start) (.mismatch src.length (stop - start))
  return overwrite b start src

lemma slice_eq (h1 : start ≤ stop) (h2 : stop ≤ b.length) :
    slice b start stop = pure (Bytes.slice b start stop) := by
  rw [slice, require_eq ⟨h1, h2⟩, pure_bind]

example : slice [1, 2] 1 3 = throw (.range 1 3 2) := rfl

lemma index_eq (h : i < b.length) : index b i = pure (byteAt b i) := by
  rw [index, require_eq h, pure_bind]

lemma setByte_eq (h : i < b.length) (v : UInt8) : setByte b i v = pure (overwrite b i [v]) := by
  rw [setByte, require_eq h, pure_bind]

lemma store_eq (h1 : start + src.length ≤ stop) (h2 : stop ≤ b.length) :
    store b start stop src = pure (overwrite b start src) := by
  rw [store, require_eq (by omega), pure_bind, require_eq (by omega), pure_bind]

lemma copy_eq (h1 : start + src.length = stop) (h2 : stop ≤ b.length) :
    copy b start stop src = pure (overwrite b start src) := by
  rw [copy, require_eq (by omega), pure_bind, require_eq (by omega), pure_bind]

/-! ### Records -/

variable {α : Type} [Wire α]

/-- The record at the front of a string that has to be long enough. -/
def record (b : Bytes) : Guarded α := do
  require (Wire.width α ≤ b.length) (.short b.length (Wire.width α))
  return Wire.decode b 0

lemma record_eq (h : Wire.width α ≤ b.length) : record b = pure (Wire.decode b 0 : α) := by
  rw [record, require_eq h, pure_bind]

/-! ### The frame buffer -/

section Frame

variable {f : Frame}

def part (f : Frame) (start stop : Nat) : Guarded Bytes := slice f.bytes start stop

def storeTo (f : Frame) (start stop : Nat) (src : Bytes) : Guarded Frame := do
  require (start ≤ stop ∧ stop ≤ frameSize) (.range start stop frameSize)
  require (src.length ≤ stop - start) (.mismatch src.length (stop - start))
  return f.write start src

def copyTo (f : Frame) (start stop : Nat) (src : Bytes) : Guarded Frame := do
  require (start ≤ stop ∧ stop ≤ frameSize) (.range start stop frameSize)
  require (src.length = stop - start) (.mismatch src.length (stop - start))
  return f.write start src

def setIn (f : Frame) (i : Nat) (v : UInt8) : Guarded Frame := do
  require (i < frameSize) (.index i frameSize)
  return f.write i [v]

/-- The record that starts at a position, which there has to be room for up to the end. -/
def recordAt (f : Frame) (start : Nat) : Guarded α := do
  record (← part f start frameSize)

def putRecord (f : Frame) (start stop : Nat) (a : α) : Guarded Frame :=
  storeTo f start stop (Wire.encode a)

lemma part_eq (h1 : start ≤ stop) (h2 : stop ≤ frameSize) :
    part f start stop = pure (f.slice start stop) :=
  slice_eq h1 (by rwa [f.size_eq])

lemma storeTo_eq (h1 : start + src.length ≤ stop) (h2 : stop ≤ frameSize) :
    storeTo f start stop src = pure (f.write start src) := by
  rw [storeTo, require_eq (by omega), pure_bind, require_eq (by omega), pure_bind]

lemma copyTo_eq (h1 : start + src.length = stop) (h2 : stop ≤ frameSize) :
    copyTo f start stop src = pure (f.write start src) := by
  rw [copyTo, require_eq (by omega), pure_bind, require_eq (by omega), pure_bind]

lemma setIn_eq (h : i < frameSize) (v : UInt8) : setIn f i v = pure (f.write i [v]) := by
  rw [setIn, require_eq h, pure_bind]

variable [LawfulWire α]

lemma recordAt_eq (h : start + Wire.width α ≤ frameSize) :
    recordAt f start = pure (f.get α start) := by
  have hlen : (f.slice start frameSize).length = frameSize - start := by
    rw [Frame.length_slice, Nat.min_self]
  rw [recordAt, part_eq (by omega) (Nat.le_refl _), pure_bind, record_eq (by omega)]
  exact congrArg pure (f.decode_slice (by omega))

lemma putRecord_eq {a : α} (h1 : start + Wire.width α ≤ stop) (h2 : stop ≤ frameSize) :
    putRecord f start stop a = pure (f.put start a) :=
  storeTo_eq (by rwa [LawfulWire.length_encode]) h2

/-- A record is looked for in a part of the frame that may be too short for it. -/
lemma parse?_slice (h : start ≤ stop) (h2 : stop ≤ frameSize) :
    (Wire.parse? (f.slice start stop) : Option α) = f.get? α start stop := by
  have hlen : (f.slice start stop).length = stop - start := by
    rw [Frame.length_slice]
    omega
  rw [Wire.parse?, Frame.get?, hlen]
  by_cases hfit : start + Wire.width α ≤ stop
  · rw [if_pos (by omega), if_pos hfit, f.decode_slice (by omega), Nat.add_zero]
  · rw [if_neg (by omega), if_neg hfit]

end Frame

/-! ### Numbers -/

def sub (a b : Nat) : Guarded Nat := do
  require (b ≤ a) (.underflow a b)
  return a - b

def word8 (n : Nat) : Guarded UInt8 := do
  require (n < UInt8.size) (.truncated n UInt8.size)
  return .ofNat n

def word16 (n : Nat) : Guarded UInt16 := do
  require (n < UInt16.size) (.truncated n UInt16.size)
  return .ofNat n

def add32 (a b : UInt32) : Guarded UInt32 := do
  require (a.toNat + b.toNat < UInt32.size) (.overflow (a.toNat + b.toNat))
  return a + b

lemma sub_eq {a b : Nat} (h : b ≤ a) : sub a b = pure (a - b) := by
  rw [sub, require_eq h, pure_bind]

lemma word8_eq {n : Nat} (h : n < 256) : word8 n = pure (.ofNat n) := by
  rw [word8, require_eq h, pure_bind]

lemma word16_eq {n : Nat} (h : n < 65536) : word16 n = pure (.ofNat n) := by
  rw [word16, require_eq h, pure_bind]

lemma add32_eq {a b : UInt32} (h : a.toNat + b.toNat < 4294967296) : add32 a b = pure (a + b) := by
  rw [add32, require_eq h, pure_bind]

end Guarded

end PacketHost
