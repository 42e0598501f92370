import Mathlib.Algebra.Order.BigOperators.Group.Finset
import PacketHost.Proofs.Filtering

/-!
What a checksum is able to detect.

Two strings that differ in one word have sums that differ by less than `65536`, so casting out
`65535` can bring the two together only where one of the words is `0` and the other is `65535`; and
even then the two strings are told apart if all the rest is zero, since no other sum than zero
becomes zero. A host that verifies headers therefore drops a frame in whose header one word was
changed, whichever field that word belongs to.
-/

namespace PacketHost

open Bytes Checksum Received

/-! ### Sums word by word -/

namespace Checksum

lemma wordSum_eq_sum (b : Bytes) :
    wordSum b = ∑ i ∈ Finset.range ((b.length + 1) / 2), (word16At b (2 * i)).toNat := by
  fun_induction wordSum b with
  | case1 high low rest ih =>
    have hwords : ((high :: low :: rest).length + 1) / 2 = (rest.length + 1) / 2 + 1 := by
      simp only [List.length_cons]
      omega
    rw [hwords, Finset.sum_range_succ', ih, Nat.add_comm]
    rfl
  | case2 high =>
    rw [List.length_singleton, Finset.sum_range_one]
    rfl
  | case3 => rfl

/-- The sum of the words besides the `k`-th one. -/
def sumBesides (k : Nat) (b : Bytes) : Nat :=
  ∑ i ∈ (Finset.range ((b.length + 1) / 2)).erase k, (word16At b (2 * i)).toNat

lemma wordSum_eq_add {k : Nat} {b : Bytes} (hk : 2 * k < b.length) :
    wordSum b = (word16At b (2 * k)).toNat + sumBesides k b := by
  rw [wordSum_eq_sum, sumBesides, Finset.add_sum_erase _ fun i => (word16At b (2 * i)).toNat]
  rw [Finset.mem_range]
  omega

lemma sumBesides_ne_zero_iff (k : Nat) (b : Bytes) :
    sumBesides k b ≠ 0 ↔ ∃ j, j ≠ k ∧ word16At b (2 * j) ≠ 0 := by
  have hzero (j : Nat) : (word16At b (2 * j)).toNat = 0 ↔ word16At b (2 * j) = 0 :=
    UInt16.toNat_inj (b := 0)
  simp only [sumBesides, Ne, Finset.sum_eq_zero_iff, Finset.mem_erase, Finset.mem_range, hzero,
    not_forall, exists_prop, and_assoc]
  refine exists_congr fun j => and_congr_right fun _ => and_iff_right_of_imp fun hword => ?_
  -- a word behind the end is zero
  by_contra hj
  refine hword ?_
  rw [word16At, byteAt_of_length_le (by omega), byteAt_of_length_le (by omega)]
  rfl

/-- Folding tells sums apart that differ in one word, but for the two forms of zero. -/
lemma onesSum_add_eq_iff {v w : Nat} (hv : v < 65536) (hw : w < 65536) (hne : v ≠ w) (n : Nat) :
    onesSum (v + n) = onesSum (w + n) ↔
      (v = 0 ∧ w = 65535 ∨ v = 65535 ∧ w = 0) ∧ n ≠ 0 := by
  unfold onesSum
  split <;> split <;> omega

end Checksum

/-- Zero and its other form. -/
def TwoZeros (v w : UInt16) : Prop := v = 0 ∧ w = 0xFFFF ∨ v = 0xFFFF ∧ w = 0

instance (v w : UInt16) : Decidable (TwoZeros v w) := inferInstanceAs (Decidable (_ ∨ _))

lemma twoZeros_iff (v w : UInt16) :
    TwoZeros v w ↔ v.toNat = 0 ∧ w.toNat = 65535 ∨ v.toNat = 65535 ∧ w.toNat = 0 := by
  simp only [TwoZeros, ← UInt16.toNat_inj]
  rfl

/-! ### A change in one word -/

/-- Two strings of one length that differ, but in no other place than in the `k`-th word. The last
word may be half a word. -/
structure DifferInWord (k : Nat) (a b : Bytes) : Prop where
  length_eq : a.length = b.length
  ne : a ≠ b
  same (i : Nat) : i / 2 ≠ k → byteAt a i = byteAt b i

namespace DifferInWord

variable {k : Nat} {a b : Bytes}

lemma word16At_eq (h : DifferInWord k a b) {j : Nat} (hj : j ≠ k) :
    word16At a (2 * j) = word16At b (2 * j) := by
  rw [word16At, word16At, h.same (2 * j) (by omega), h.same (2 * j + 1) (by omega)]

lemma word16At_ne (h : DifferInWord k a b) : word16At a (2 * k) ≠ word16At b (2 * k) := by
  intro hword
  have hhigh : byteAt a (2 * k) = byteAt b (2 * k) := by
    simpa [word16At] using congrArg highByte hword
  have hlow : byteAt a (2 * k + 1) = byteAt b (2 * k + 1) := by
    simpa [word16At] using congrArg lowByte hword
  refine h.ne (ext_byteAt h.length_eq fun i _ => ?_)
  by_cases hi : i / 2 = k
  · obtain rfl | rfl : i = 2 * k ∨ i = 2 * k + 1 := by omega
    · exact hhigh
    · exact hlow
  · exact h.same i hi

/-- The word is in the string. -/
lemma lt_length (h : DifferInWord k a b) : 2 * k < a.length := by
  by_contra hk
  refine h.ne (ext_byteAt h.length_eq fun i hi => h.same i ?_)
  omega

lemma sumBesides_eq (h : DifferInWord k a b) : sumBesides k a = sumBesides k b := by
  rw [sumBesides, sumBesides, h.length_eq]
  refine Finset.sum_congr rfl fun j hj => ?_
  rw [h.word16At_eq (Finset.ne_of_mem_erase hj)]

/-- A change of one word is seen, unless it exchanges the two zeros with something else around. -/
lemma checksum_eq_iff (h : DifferInWord k a b) :
    checksum a = checksum b ↔
      TwoZeros (word16At a (2 * k)) (word16At b (2 * k)) ∧ ∃ j, j ≠ k ∧ word16At a (2 * j) ≠ 0 := by
  have hne : (word16At a (2 * k)).toNat ≠ (word16At b (2 * k)).toNat :=
    fun heq => h.word16At_ne (UInt16.toNat_inj.1 heq)
  have hsum : wordSum b = (word16At b (2 * k)).toNat + sumBesides k a := by
    rw [wordSum_eq_add (h.length_eq ▸ h.lt_length), h.sumBesides_eq]
  have hfolded : checksum a = checksum b ↔ onesSum (wordSum a) = onesSum (wordSum b) := by
    have hle := onesSum_le (wordSum a)
    have hle' := onesSum_le (wordSum b)
    rw [← UInt16.toNat_inj, toNat_checksum, toNat_checksum]
    omega
  rw [hfolded, wordSum_eq_add h.lt_length, hsum,
    onesSum_add_eq_iff (UInt16.toNat_lt _) (UInt16.toNat_lt _) hne, twoZeros_iff,
    sumBesides_ne_zero_iff]

end DifferInWord

/-- One word is changed by writing another over it. -/
lemma differInWord_overwrite {k : Nat} {b : Bytes} {w : UInt16} (hlen : 2 * k + 2 ≤ b.length)
    (hw : word16At b (2 * k) ≠ w) : DifferInWord k b (overwrite b (2 * k) (ofWord16 w)) where
  length_eq := (length_overwrite b _ _).symm
  ne := by
    intro heq
    rw [heq, word16At_overwrite hlen] at hw
    exact hw rfl
  same i hi := by
    rw [byteAt_overwrite, if_neg]
    show ¬ (2 * k ≤ i ∧ i < 2 * k + 2 ∧ i < b.length)
    omega

/-! ### Headers on receipt -/

namespace Received

/-- The frame carries IPv4, and the header sums to zero. -/
@[mk_iff] structure GoodHeader (f : Bytes) : Prop where
  length_le : 34 ≤ f.length
  etherType : (ethernet f).etherType = EtherType.ipv4
  sum : checksum (slice f ipOffset transportOffset) = 0

instance (f : Bytes) : Decidable (GoodHeader f) := decidable_of_iff _ (goodHeader_iff f).symm

variable {f b : Bytes} {j : Nat}

/-- The header starts with the eighth word of the frame. -/
lemma word16At_header (f : Bytes) (hj : j < 10) :
    word16At (slice f ipOffset transportOffset) (2 * j) = word16At f (2 * (7 + j)) := by
  have hoff : 2 * (7 + j) = ipOffset + 2 * j := Nat.mul_add 2 7 j
  rw [hoff, word16At, word16At, byteAt_slice, byteAt_slice, Nat.add_assoc,
    if_pos (show 2 * j < 34 - 14 by omega), if_pos (show 2 * j + 1 < 34 - 14 by omega)]

lemma differInWord_header (h : DifferInWord (7 + j) f b) (hj : j < 10) :
    DifferInWord j (slice f ipOffset transportOffset) (slice b ipOffset transportOffset) where
  length_eq := by rw [length_slice, length_slice, h.length_eq]
  ne := by
    intro heq
    refine h.word16At_ne ?_
    rw [← word16At_header f hj, heq, word16At_header b hj]
  same i hi := by
    rw [byteAt_slice, byteAt_slice, h.same (ipOffset + i)]
    show (14 + i) / 2 ≠ 7 + j
    omega

/-- A good header becomes a bad one by a change in one word. -/
lemma GoodHeader.badHeader (hf : GoodHeader f) (h : DifferInWord (7 + j) f b) (hj : j < 10)
    (hzeros : ¬ TwoZeros (word16At f (2 * (7 + j))) (word16At b (2 * (7 + j)))) : BadHeader b where
  length_le := h.length_eq ▸ hf.length_le
  etherType := by
    have heth : ethernet b = ethernet f := by
      refine Wire.decode_congr fun i hi => (h.same (0 + i) ?_).symm
      have hi' : i < 14 := hi
      omega
    rw [heth, hf.etherType]
  sum := by
    intro hsum
    have hsame := (differInWord_header h hj).checksum_eq_iff.1 (hf.sum.trans hsum.symm)
    rw [word16At_header f hj, word16At_header b hj] at hsame
    exact hzeros hsame.1

end Received

namespace Host

variable {δ : Type} [Device δ]

/-- What arrives has no effect: nothing is handed to the device, and no application is called. -/
structure Ignores (h : Host δ) (b : Bytes) : Prop where
  device_eq : ((h.holding b).dispatch b.length).device = h.device
  deliveries_eq : ((h.holding b).dispatch b.length).deliveries = h.deliveries

lemma ignores_of_badHeader {h : Host δ} {b : Bytes} (hv : h.settings.verifyChecksums = true)
    (hb : BadHeader b) : h.Ignores (b.take frameSize) := by
  have hsilent := h.silent_of_badHeader hv hb
  obtain ⟨log, hdispatch⟩ := h.dispatch_eq (b.take frameSize)
  refine ⟨?_, ?_⟩
  · rw [hdispatch, hsilent.outgoing?]
    rfl
  · rw [hdispatch, hsilent.2]
    exact List.append_nil _

end Host

/-- **A change in one word is detected.** Two strings that differ in one word have the same checksum
only if the two words are the two forms of zero and some other word is not zero. So a host that
verifies headers does nothing about a frame whose header was good before one of its ten words was
changed, unless the change was from one zero to the other: the device is not called, and no
application is. -/
theorem wordChange_detected :
    (∀ (k : Nat) (a b : Bytes), DifferInWord k a b →
      (checksum a = checksum b ↔
        TwoZeros (word16At a (2 * k)) (word16At b (2 * k)) ∧
          ∃ j, j ≠ k ∧ word16At a (2 * j) ≠ 0)) ∧
    ∀ (δ : Type) [Device δ] (h : Host δ) (f b : Bytes) (j : Nat),
      h.settings.verifyChecksums = true → GoodHeader f → DifferInWord (7 + j) f b → j < 10 →
      ¬ TwoZeros (word16At f (2 * (7 + j))) (word16At b (2 * (7 + j))) →
      h.Ignores (b.take frameSize) := by
  refine ⟨fun k a b hab => hab.checksum_eq_iff, ?_⟩
  intro δ _ h f b j hv hf hfb hj hzeros
  exact Host.ignores_of_badHeader hv (hf.badHeader hfb hj hzeros)

/-- A datagram is no TCP segment only because its protocol was changed on the way; and two strings
that differ in their zeros are told apart if there is nothing else in them. -/
theorem wordChange_detected_checkedDatagram :
    (Host.echoing []).verifying.Ignores
      ((overwrite checkedDatagram 22 (ofWord16 0x4006)).take frameSize) ∧
    checksum [0, 0, 0x12] = checksum [0xFF, 0xFF, 0x12] ∧ checksum [0, 0] ≠ checksum [0xFF, 0xFF] := by
  obtain ⟨hpair, hframe⟩ := wordChange_detected
  have hfirst {w : UInt16} {rest : Bytes} (hw : word16At (0 :: 0 :: rest) 0 ≠ w) :
      DifferInWord 0 (0 :: 0 :: rest) (overwrite (0 :: 0 :: rest) 0 (ofWord16 w)) :=
    differInWord_overwrite (by simp) hw
  refine ⟨?_, ?_, ?_⟩
  · exact hframe _ _ checkedDatagram _ 4 rfl (by decide +kernel)
      (differInWord_overwrite (by decide) (by decide)) (by decide) (by decide)
  · exact (hpair 0 _ _ (hfirst (w := 0xFFFF) (by decide))).2 ⟨by decide, 1, by decide, by decide⟩
  · intro heq
    obtain ⟨j, hj, hword⟩ := ((hpair 0 _ _ (hfirst (w := 0xFFFF) (by decide))).1 heq).2
    refine hword ?_
    rw [word16At, byteAt_of_length_le (show 2 ≤ 2 * j by omega),
      byteAt_of_length_le (show 2 ≤ 2 * j + 1 by omega)]
    rfl

end PacketHost
