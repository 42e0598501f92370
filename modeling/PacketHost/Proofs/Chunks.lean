import PacketHost.Proofs.WordSum

/-!
Checksums over several pieces.

An accumulator takes a byte string in pieces, and a piece of odd length is padded on its own. What
it holds afterwards is a function of one natural number, the sum of the words of all pieces: so the
pieces may come in any order, and they may be taken together where no padding gets in between.
-/

namespace PacketHost

open Bytes

namespace Checksum

/-- A string of even length can be taken apart from what comes behind it. -/
lemma wordSum_append {x : Bytes} (hx : x.length % 2 = 0) (y : Bytes) :
    wordSum (x ++ y) = wordSum x + wordSum y := by
  fun_induction wordSum x with
  | case1 high low rest ih =>
    have hrest : rest.length % 2 = 0 := by
      simp only [List.length_cons] at hx
      omega
    rw [List.cons_append, List.cons_append, wordSum, ih hrest, Nat.add_assoc]
  | case2 high => cases hx
  | case3 => rw [List.nil_append, Nat.zero_add]

/-- The plain sum of the words of all pieces. -/
def chunkSum : List Bytes → Nat
  | [] => 0
  | chunk :: chunks => wordSum chunk + chunkSum chunks

lemma chunkSum_perm {chunks chunks' : List Bytes} (h : chunks.Perm chunks') :
    chunkSum chunks = chunkSum chunks' := by
  induction h with
  | nil => rfl
  | cons x _ ih => rw [chunkSum, chunkSum, ih]
  | swap x y chunks =>
    simp only [chunkSum]
    rw [Nat.add_left_comm]
  | trans _ _ ih ih' => exact ih.trans ih'

/-- The last piece is the only one that may be padded. -/
lemma chunkSum_eq_flatten {chunks : List Bytes} (h : ∀ x ∈ chunks.dropLast, x.length % 2 = 0) :
    chunkSum chunks = wordSum chunks.flatten := by
  induction chunks with
  | nil => rfl
  | cons x chunks ih =>
    rcases chunks with - | ⟨y, chunks⟩
    · rw [List.flatten_singleton]
      exact Nat.add_zero _
    · rw [List.dropLast_cons_cons, List.forall_mem_cons] at h
      rw [chunkSum, ih h.2, List.flatten_cons (L := y :: chunks), wordSum_append h.1]

namespace Accumulator

/-- The accumulator after these pieces have been added, one after the other. -/
def addAll (acc : Accumulator) (chunks : List Bytes) : Accumulator := chunks.foldl add acc

lemma total_addAll {acc : Accumulator} {n : Nat} (h : acc.total.toNat = onesSum n)
    (chunks : List Bytes) : (acc.addAll chunks).total.toNat = onesSum (n + chunkSum chunks) := by
  induction chunks generalizing acc n with
  | nil => exact h
  | cons x chunks ih =>
    rw [chunkSum, ← Nat.add_assoc]
    exact ih (total_add h x)

lemma total_addAll_empty (chunks : List Bytes) :
    (({} : Accumulator).addAll chunks).total.toNat = onesSum (chunkSum chunks) := by
  rw [total_addAll total_empty, Nat.zero_add]

/-- Nothing is kept but the total. -/
lemma eq_of_total {acc acc' : Accumulator} {n : Nat} (h : acc.total.toNat = onesSum n)
    (h' : acc'.total.toNat = onesSum n) : acc = acc' := by
  obtain ⟨total⟩ := acc
  obtain ⟨total'⟩ := acc'
  exact congrArg mk (UInt32.toNat_inj.1 (h.trans h'.symm))

lemma addAll_eq_add {chunks : List Bytes} (h : ∀ x ∈ chunks.dropLast, x.length % 2 = 0) :
    ({} : Accumulator).addAll chunks = ({} : Accumulator).add chunks.flatten := by
  refine eq_of_total (total_addAll_empty chunks) ?_
  rw [total_add total_empty, Nat.zero_add, chunkSum_eq_flatten h]

/-- What an accumulator gives after these pieces. -/
structure Accumulated (chunks : List Bytes) (acc : Accumulator) : Prop where
  sum_eq : acc.sum.toNat = onesSum (chunkSum chunks)
  finish_eq : acc.finish.toNat = 65535 - acc.sum.toNat
  /-- After none of the pieces has the total been too large for 16 bits. -/
  total_le (n : Nat) : (({} : Accumulator).addAll (chunks.take n)).total ≤ 0xFFFF
  eq_of_perm {chunks' : List Bytes} : chunks'.Perm chunks →
    ({} : Accumulator).addAll chunks' = acc
  eq_add : (∀ x ∈ chunks.dropLast, x.length % 2 = 0) → acc = ({} : Accumulator).add chunks.flatten

lemma accumulated_addAll (chunks : List Bytes) :
    Accumulated chunks (({} : Accumulator).addAll chunks) := by
  have htotal := total_addAll_empty chunks
  exact
    { sum_eq := toNat_sum htotal
      finish_eq := by rw [toNat_finish htotal, toNat_sum htotal]
      total_le := by
        intro n
        rw [UInt32.le_iff_toNat_le, total_addAll_empty]
        exact onesSum_le _
      eq_of_perm := by
        intro chunks' hperm
        refine eq_of_total (total_addAll_empty chunks') ?_
        rw [htotal, chunkSum_perm hperm]
      eq_add := addAll_eq_add }

end Accumulator

end Checksum

open Checksum Accumulator

lemma length_pseudoHeader (src dst : Ipv4Addr) (protocol : UInt8) (n : Nat) :
    (pseudoHeader src dst protocol n).length = 12 := rfl

/-- A transport checksum is that of the pseudo header and the segment in one string. -/
lemma pseudoHeaderChecksum_eq_checksum (src dst : Ipv4Addr) (protocol : UInt8) (segment : Bytes) :
    pseudoHeaderChecksum src dst protocol segment =
      checksum (pseudoHeader src dst protocol segment.length ++ segment) := by
  have heven : ∀ x ∈ [pseudoHeader src dst protocol segment.length, segment].dropLast,
      x.length % 2 = 0 := by
    intro x hx
    rw [List.mem_singleton.1 hx, length_pseudoHeader]
  have hpieces := addAll_eq_add heven
  rw [List.flatten_cons, List.flatten_singleton] at hpieces
  exact congrArg finish hpieces

lemma toNat_length_pseudoHeader (src dst : Ipv4Addr) (protocol : UInt8) (n : Nat) :
    (word16At (pseudoHeader src dst protocol n) 10).toNat = n % 65536 := by
  have hword : word16At (pseudoHeader src dst protocol n) 10 = .ofNat n :=
    word16_highByte_lowByte _
  rw [hword, UInt16.toNat_ofNat']

/-- **The accumulator is exact**: it never leaves 16 bits, and after pieces of any number and length
its sum is the plain sum of their words, brought into `0 .. 65535` by casting out `65535`. So the
order of the pieces makes no difference, nor does it where a string is cut, if that is between two
words. A transport checksum is in this way the checksum of one string. -/
theorem accumulator_exact :
    (∀ chunks : List Bytes, Accumulated chunks (({} : Accumulator).addAll chunks)) ∧
    ∀ (src dst : Ipv4Addr) (protocol : UInt8) (segment : Bytes),
      let header := pseudoHeader src dst protocol segment.length
      header.length = 12 ∧ (word16At header 10).toNat = segment.length % 65536 ∧
        pseudoHeaderChecksum src dst protocol segment = checksum (header ++ segment) ∧
        pseudoHeaderChecksum src dst protocol segment =
          pseudoHeaderChecksum dst src protocol segment := by
  refine ⟨accumulated_addAll, fun src dst protocol segment => ⟨?_, ?_, ?_, ?_⟩⟩
  · exact length_pseudoHeader src dst protocol segment.length
  · exact toNat_length_pseudoHeader src dst protocol segment.length
  · exact pseudoHeaderChecksum_eq_checksum src dst protocol segment
  · exact pseudoHeaderChecksum_comm src dst protocol segment

/-- A piece of odd length stands last when the string is cut between words, and may stand first when
only the order is changed. -/
theorem accumulator_exact_threeBytes :
    ({} : Accumulator).addAll [[0x12, 0x34], [0x56]] = ({} : Accumulator).add [0x12, 0x34, 0x56] ∧
    ({} : Accumulator).addAll [[0x56], [0x12, 0x34]] =
      ({} : Accumulator).addAll [[0x12, 0x34], [0x56]] := by
  have hchunks := accumulator_exact.1 [[0x12, 0x34], [0x56]]
  exact ⟨hchunks.eq_add (by decide), hchunks.eq_of_perm (List.Perm.swap _ _ [])⟩

end PacketHost
