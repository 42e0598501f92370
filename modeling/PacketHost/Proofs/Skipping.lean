import Mathlib.Algebra.GroupWithZero.Nat
import PacketHost.Proofs.Labels
import PacketHost.Proofs.Responses

/-!
The labels that a walk over a name steps over, against the labels that are listed.

There are two walks. The one that looks for the end of a name (`skipName`) takes a length for a
pointer where both of its top bits are set; the one that lists the labels (`labels`) stops where
either is. So they part at a length of 64 to 191, which is no length of a label: the first steps
over that many bytes and goes on, the second ends there.
-/

namespace PacketHost

open Bytes

namespace Dns

/-- A name in a message, from one position up to another: labels of a length that can be stepped
over, each behind that length, and what ends the name. -/
structure NameAt (message : Bytes) (off stop : Nat) (ls : List Bytes) (ending : Bytes) : Prop where
  bytes : ∃ rest, message.drop off = ls.flatMap encodeLabel ++ (ending ++ rest)
  length_label : ∀ l ∈ ls, 1 ≤ l.length ∧ l.length < 192
  ends : EndsName ending
  stop_eq : stop = off + (ls.map fun l => 1 + l.length).sum + ending.length

/-! ### Lengths -/

lemma toNat_of_bits {v : UInt8} (hne : v ≠ 0) (hbits : v &&& 0xC0 ≠ 0xC0) :
    1 ≤ v.toNat ∧ v.toNat < 192 := by
  have hall : ∀ n < 256, UInt8.ofNat n ≠ 0 → UInt8.ofNat n &&& 0xC0 ≠ 0xC0 → 1 ≤ n ∧ n < 192 := by
    decide +kernel
  exact hall v.toNat v.toNat_lt (by rwa [UInt8.ofNat_toNat]) (by rwa [UInt8.ofNat_toNat])

/-- The top bits of a length are zero just where it is the length of a label. -/
lemma bits_eq_zero_iff {n : Nat} (hn : n < 256) :
    UInt8.ofNat n &&& 0xC0 = 0 ↔ n ≤ maxLabelLength := by
  have hall : ∀ n < 256, UInt8.ofNat n &&& 0xC0 = 0 ↔ n ≤ 63 := by decide +kernel
  exact hall n hn

lemma length_flatMap_eq_sum (ls : List Bytes) :
    (ls.flatMap encodeLabel).length = (ls.map fun l => 1 + l.length).sum := by
  rw [List.length_flatMap]
  congr 1
  apply List.map_congr_left
  intro l _
  rw [encodeLabel, List.length_cons, Nat.add_comm]

/-! ### The two walks -/

/-- A name that can be walked over, taken apart. -/
lemma WireName.exists_labels {x : Bytes} (h : WireName x) :
    ∃ (ls : List Bytes) (ending : Bytes), x = ls.flatMap encodeLabel ++ ending ∧
      EndsName ending ∧ ∀ l ∈ ls, 1 ≤ l.length ∧ l.length < 192 := by
  induction h with
  | root => exact ⟨[], [0], rfl, .root, by simp⟩
  | pointer w hv => exact ⟨[], _, rfl, .pointer w hv, by simp⟩
  | @label v l rest hne hbits hl _ ih =>
    obtain ⟨ls, ending, hrest, hends, hls⟩ := ih
    refine ⟨l :: ls, ending, ?_, hends, ?_⟩
    · rw [List.flatMap_cons, encodeLabel, hl, UInt8.ofNat_toNat, hrest, List.cons_append,
        List.cons_append, List.append_assoc]
    · rintro l' (_ | ⟨_, hl'⟩)
      · rw [hl]
        exact toNat_of_bits hne hbits
      · exact hls l' hl'

/-- Nothing is listed where a name ends. -/
lemma labels_of_endsName {ending : Bytes} (h : EndsName ending) (rest : Bytes) :
    labels (ending ++ rest) = [] := by
  cases h with
  | root => simp [labels]
  | @pointer v w hv =>
    have hbits : v &&& 0xC0 ≠ 0 := by
      rw [hv]
      decide
    rw [List.cons_append, labels, if_pos (.inr (.inl hbits))]

/-- Of the labels that can be stepped over, those up to the first of more than 63 bytes are
listed. -/
lemma labels_flatMap_takeWhile {ls : List Bytes} {ending : Bytes}
    (hls : ∀ l ∈ ls, 1 ≤ l.length ∧ l.length < 192) (hends : EndsName ending) (rest : Bytes) :
    labels (ls.flatMap encodeLabel ++ (ending ++ rest)) =
      ls.takeWhile fun l => decide (l.length ≤ maxLabelLength) := by
  induction ls with
  | nil => exact labels_of_endsName hends rest
  | cons l ls ih =>
    obtain ⟨hpos, hlt⟩ := hls l List.mem_cons_self
    have htail := ih fun l' hl' => hls l' (List.mem_cons_of_mem l hl')
    have hlen : (UInt8.ofNat l.length).toNat = l.length := by
      rw [UInt8.toNat_ofNat']
      exact Nat.mod_eq_of_lt (by omega)
    have hne : UInt8.ofNat l.length ≠ 0 := by
      intro hzero
      rw [hzero] at hlen
      simp at hlen
      omega
    rw [List.flatMap_cons, encodeLabel, List.cons_append, List.cons_append, List.append_assoc,
      labels, hlen, List.take_left, List.drop_left, htail, List.takeWhile_cons]
    by_cases hlong : l.length ≤ maxLabelLength
    · have hbits := (bits_eq_zero_iff (by omega)).2 hlong
      rw [if_neg (by simp [hne, hbits]), if_pos (by simpa using hlong)]
    · have hbits := mt (bits_eq_zero_iff (by omega)).1 hlong
      rw [if_pos (.inr (.inl hbits)), if_neg (by simpa using hlong)]

/-- **What the walk over a name steps over, and what of it is listed.** Where a walk ends inside the
message, it has passed a name: labels of 1 to 191 bytes, each behind its length, and a zero byte or
a pointer of two bytes. The labels that are listed from there on are the first of these, up to one
of more than 63 bytes; they are all of them just where each is short enough for a label. -/
theorem skipName_labels {message : Bytes} {off stop : Nat}
    (h : skipName message off = .ok stop) (hstop : stop ≤ message.length) :
    ∃ ls ending, NameAt message off stop ls ending ∧
      labels (message.drop off) = ls.takeWhile (fun l => decide (l.length ≤ maxLabelLength)) ∧
      (labels (message.drop off) = ls ↔ ∀ l ∈ ls, isLabel l = true) := by
  have hwalk := nameWalk_skipName message off
  rw [h] at hwalk
  cases hwalk with
  | past hpast => omega
  | @ended x rest hx hdrop =>
    obtain ⟨ls, ending, hname, hends, hls⟩ := hx.exists_labels
    have hbytes : message.drop off = ls.flatMap encodeLabel ++ (ending ++ rest) := by
      rw [hdrop, hname, List.append_assoc]
    have hlisted := labels_flatMap_takeWhile hls hends rest
    rw [← hbytes] at hlisted
    refine ⟨ls, ending, ⟨⟨rest, hbytes⟩, hls, hends, ?_⟩, hlisted, ?_⟩
    · rw [hname, List.length_append, length_flatMap_eq_sum, Nat.add_assoc]
    · rw [hlisted, List.takeWhile_eq_self_iff]
      refine forall₂_congr fun l hl => ?_
      simp [isLabel, (hls l hl).1]

theorem skipName_labels_dotted :
    ∃ ls ending, NameAt [9, 1, 0x61, 2, 0x62, 0x63, 0xC0, 12, 9] 1 8 ls ending ∧
      labels [1, 0x61, 2, 0x62, 0x63, 0xC0, 12, 9] =
        ls.takeWhile (fun l => decide (l.length ≤ 63)) ∧
      (labels [1, 0x61, 2, 0x62, 0x63, 0xC0, 12, 9] = ls ↔ ∀ l ∈ ls, isLabel l = true) := by
  have hskip : skipName [9, 1, 0x61, 2, 0x62, 0x63, 0xC0, 12, 9] 1 = .ok 8 := by decide +kernel
  exact skipName_labels hskip (by decide)

/-- A length of 64, as many bytes, and a zero byte. -/
def overlongName : Bytes := 64 :: (List.replicate 64 0x61 ++ [0])

/-- Not everything that is stepped over is listed, nor is it labels. -/
theorem skipName_over_unlisted :
    ¬ ∀ (message : Bytes) (off stop : Nat), skipName message off = .ok stop →
      stop ≤ message.length →
        (∃ ending, NameAt message off stop (labels (message.drop off)) ending) ∧
        ∀ l ∈ labels (message.drop off), isLabel l = true := by
  intro hall
  have hskip : skipName overlongName 0 = .ok 66 := by decide +kernel
  have hlabels : labels (overlongName.drop 0) = [] := by decide +kernel
  obtain ⟨⟨ending, hname⟩, -⟩ := hall overlongName 0 66 hskip (by decide)
  have hstop := hname.stop_eq
  rw [hlabels] at hstop
  cases hname.ends <;> simp at hstop

end Dns

end PacketHost
