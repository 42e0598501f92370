import PacketHost.Wire

/-!
The one frame buffer that a host receives into, builds its answers in, and sends from.

It is larger than the largest frame that is ever sent. Its size is part of the type and no write
changes it.
-/

namespace PacketHost

open Bytes

abbrev frameSize : Nat := 1536

/-- The largest frame sent: an Ethernet header and 1500 bytes. -/
abbrev maxFrameLength : Nat := 1514

/-- Where the record after the Ethernet header starts. -/
abbrev ipOffset : Nat := 14

/-- Where the record after an IPv4 header without options starts. -/
abbrev transportOffset : Nat := 34

/-- Where the data of a datagram starts. -/
abbrev udpDataOffset : Nat := 42

structure Frame where
  bytes : Bytes
  size_eq : bytes.length = frameSize
  deriving DecidableEq

namespace Frame

def blank : Frame := ⟨List.replicate frameSize 0, List.length_replicate⟩

def byte (f : Frame) (i : Nat) : UInt8 := byteAt f.bytes i

def slice (f : Frame) (start stop : Nat) : Bytes := Bytes.slice f.bytes start stop

def write (f : Frame) (off : Nat) (src : Bytes) : Frame :=
  ⟨overwrite f.bytes off src, by rw [length_overwrite, f.size_eq]⟩

/-- The record at a position. -/
def get (f : Frame) (α : Type) [Wire α] (off : Nat) : α := Wire.decode f.bytes off

/-- The record at a position, if it ends by `stop`. -/
def get? (f : Frame) (α : Type) [Wire α] (off stop : Nat) : Option α :=
  if off + Wire.width α ≤ stop then some (f.get α off) else none

def put {α : Type} [Wire α] (f : Frame) (off : Nat) (a : α) : Frame := f.write off (Wire.encode a)

theorem byte_write (f : Frame) (off : Nat) (src : Bytes) (i : Nat) :
    (f.write off src).byte i =
      if off ≤ i ∧ i < off + src.length ∧ i < frameSize then byteAt src (i - off) else f.byte i := by
  simp only [byte, write, byteAt_overwrite, f.size_eq]

@[ext] theorem ext_byte {f g : Frame} (h : ∀ i < frameSize, f.byte i = g.byte i) : f = g := by
  obtain ⟨a, ha⟩ := f
  obtain ⟨b, hb⟩ := g
  have : a = b := ext_byteAt (by rw [ha, hb]) fun i hi => h i (by rwa [ha] at hi)
  subst this
  rfl

theorem get_put {α : Type} [Wire α] [LawfulWire α] (f : Frame) (off : Nat) (a : α)
    (h : off + Wire.width α ≤ frameSize) : (f.put off a).get α off = a :=
  Wire.decode_overwrite a (by rw [f.size_eq]; exact h)

end Frame

end PacketHost
