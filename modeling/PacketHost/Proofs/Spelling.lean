import Mathlib.Data.List.Forall2
import Mathlib.Data.Nat.Digits.Defs
import PacketHost.Address.Text

/-!
Which texts are hardware addresses, and which of them are the same address.

The grammar is stated here on its own, over the parts of a text between its colons (`SpellsOctet`),
with the value of a row of digits as a number in base 16. Reading takes exactly the texts of this
grammar, however long their parts are, and gives the values of the parts.

Of all spellings of an octet there is one without anything to spare: no sign, no leading zeros, and
letters in lower case. Two texts are one address just when they come down to the same one (`bare`).
-/

namespace PacketHost

open Digits Separated

lemma Separated.fields_eq_splitOn {α : Type} [DecidableEq α] (sep : α) (xs : List α) :
    fields sep xs = xs.splitOn sep := by
  induction xs with
  | nil => rw [List.splitOn_nil, fields]
  | cons x xs ih =>
    rw [List.splitOn_cons_eq_if_modifyHead, fields, ← ih]
    by_cases hx : x = sep
    · rw [if_pos hx, if_pos (beq_iff_eq.2 hx)]
    · rw [if_neg hx, if_neg (by simpa using hx)]
      obtain ⟨f, fs, hfields⟩ := List.exists_cons_of_ne_nil (fields_ne_nil sep xs)
      rw [hfields, List.modifyHead_cons]

namespace Digits

/-! ### Rows of digits and their values -/

/-- The digits of base 16, each at the place of its value. -/
def hexDigits : List Char :=
  ['0', '1', '2', '3', '4', '5', '6', '7', '8', '9', 'a', 'b', 'c', 'd', 'e', 'f']

def IsHexDigit (c : Char) : Prop := c.toLower ∈ hexDigits

instance (c : Char) : Decidable (IsHexDigit c) := inferInstanceAs (Decidable (_ ∈ _))

def digitValue (c : Char) : Nat := hexDigits.idxOf c.toLower

/-- The value of a row of digits, the first of which counts most. -/
def rowValue (cs : List Char) : Nat := Nat.ofDigits 16 (cs.reverse.map digitValue)

/-- A row of one or more digits for a number. -/
structure Spells (cs : List Char) (n : Nat) : Prop where
  ne_nil : cs ≠ []
  digits : ∀ c ∈ cs, IsHexDigit c
  value : rowValue cs = n

/-- The row without leading zeros and capital letters. -/
def plainRow (cs : List Char) : List Char := (cs.dropWhile (· == '0')).map Char.toLower

/-- The shortest row for a number, and no digit at all for zero. -/
def shortest (n : Nat) : List Char := (Nat.digits 16 n).reverse.map Nat.digitChar

@[elab_as_elim]
lemma forall_ascii {P : Char → Prop} {c : Char} (hc : c.toNat < 128) (h : ∀ n < 128, P (.ofNat n)) :
    P c := by
  rw [← Char.ofNat_toNat c]
  exact h c.toNat hc

/-- Only the capital letters of the first 128 characters have another lower case. -/
lemma toLower_of_le {c : Char} (h : 128 ≤ c.toNat) : c.toLower = c := by
  refine dif_neg ?_
  rintro ⟨-, hle⟩
  have : c.toNat ≤ 90 := UInt32.le_iff_toNat_le.1 hle
  omega

lemma toNat_lt_of_isHexDigit {c : Char} (h : IsHexDigit c) : c.toNat < 128 := by
  by_contra hhigh
  have hlow : ∀ d ∈ hexDigits, d.toNat < 128 := by simp [hexDigits]
  rw [IsHexDigit, toLower_of_le (not_lt.1 hhigh)] at h
  exact hhigh (hlow c h)

lemma hexValue?_of_isHexDigit {c : Char} (h : IsHexDigit c) :
    hexValue? c = some (digitValue c) := by
  have hlow := toNat_lt_of_isHexDigit h
  revert h
  refine forall_ascii hlow ?_
  decide +kernel

lemma hexValue?_of_not_isHexDigit {c : Char} (h : ¬ IsHexDigit c) : hexValue? c = none := by
  rcases Nat.lt_or_ge c.toNat 128 with hlow | hhigh
  · revert h
    refine forall_ascii hlow ?_
    decide +kernel
  · have hout {l : Char} (hl : l.toNat < 128) : ¬ c ≤ l := fun hle => by
      have : c.toNat ≤ l.toNat := UInt32.le_iff_toNat_le.1 hle
      omega
    rw [hexValue?, if_neg fun h => hout (by decide) h.2, if_neg fun h => hout (by decide) h.2,
      if_neg fun h => hout (by decide) h.2]

lemma digitValue_lt {c : Char} (h : IsHexDigit c) : digitValue c < 16 :=
  List.idxOf_lt_length_of_mem h

lemma digitChar_digitValue {c : Char} (h : IsHexDigit c) :
    (digitValue c).digitChar = c.toLower := by
  have hall : ∀ d ∈ hexDigits, (hexDigits.idxOf d).digitChar = d := by simp [hexDigits]
  exact hall c.toLower h

lemma isHexDigit_digitChar {d : Nat} (h : d < 16) : IsHexDigit d.digitChar := by
  have hall : ∀ d < 16, IsHexDigit d.digitChar := by decide
  exact hall d h

lemma digitValue_digitChar {d : Nat} (h : d < 16) : digitValue d.digitChar = d := by
  have hall : ∀ d < 16, digitValue d.digitChar = d := by decide
  exact hall d h

lemma rowValue_append (cs ds : List Char) :
    rowValue (cs ++ ds) = rowValue cs * 16 ^ ds.length + rowValue ds := by
  rw [rowValue, List.reverse_append, List.map_append, Nat.ofDigits_append, List.length_map,
    List.length_reverse, ← rowValue, ← rowValue]
  ring

lemma rowValue_singleton (c : Char) : rowValue [c] = digitValue c := Nat.ofDigits_singleton

lemma rowValue_cons (c : Char) (cs : List Char) :
    rowValue (c :: cs) = digitValue c * 16 ^ cs.length + rowValue cs := by
  rw [← List.singleton_append, rowValue_append, rowValue_singleton]

/-! ### Reading -/

/-- What has been read so far counts as much as the digits that follow make it. -/
lemma valueFrom?_eq_some_iff {n v : Nat} {cs : List Char} :
    valueFrom? hexValue? 16 n cs = some v ↔
      (∀ c ∈ cs, IsHexDigit c) ∧ n * 16 ^ cs.length + rowValue cs = v := by
  induction cs generalizing n with
  | nil => simp [valueFrom?, rowValue]
  | cons c cs ih =>
    rw [valueFrom?, List.forall_mem_cons]
    by_cases hc : IsHexDigit c
    · have hsum : (n * 16 + digitValue c) * 16 ^ cs.length + rowValue cs =
          n * 16 ^ (c :: cs).length + rowValue (c :: cs) := by
        rw [rowValue_cons, List.length_cons, pow_succ]
        ring
      rw [hexValue?_of_isHexDigit hc, ih, hsum]
      simp only [hc, true_and]
    · rw [hexValue?_of_not_isHexDigit hc]
      simp only [hc, false_and, reduceCtorEq]

lemma value?_eq_some_iff {n : Nat} {cs : List Char} :
    value? hexValue? 16 cs = some n ↔ Spells cs n := by
  cases cs with
  | nil =>
    constructor
    · intro h
      exact nomatch h
    · intro h
      exact absurd rfl h.ne_nil
  | cons c cs =>
    rw [value?, List.isEmpty_cons, if_neg Bool.false_ne_true, valueFrom?_eq_some_iff, Nat.zero_mul,
      Nat.zero_add]
    constructor
    · rintro ⟨hdigits, hvalue⟩
      exact ⟨List.cons_ne_nil c cs, hdigits, hvalue⟩
    · exact fun h => ⟨h.digits, h.value⟩

lemma byte?_eq_some_iff {n : Nat} {o : UInt8} : byte? n = some o ↔ n = o.toNat := by
  have := o.toNat_lt
  rw [byte?]
  constructor
  · intro h
    split at h
    next hle =>
      rw [← Option.some.inj h, UInt8.toNat_ofNat_of_lt' (show n < 256 by omega)]
    · exact nomatch h
  · rintro rfl
    rw [if_pos (by omega), UInt8.ofNat_toNat]

lemma octet_eq_some_iff {cs : List Char} {o : UInt8} :
    value? hexValue? 16 cs >>= byte? = some o ↔ Spells cs o.toNat := by
  rw [Option.bind_eq_bind, Option.bind_eq_some_iff, ← value?_eq_some_iff]
  simp only [byte?_eq_some_iff, exists_eq_right]

/-! ### Writing -/

lemma length_hex (k n : Nat) : (hex k n).length = k := by
  induction k generalizing n with
  | zero => rfl
  | succ k ih => rw [hex, List.length_append, ih, List.length_singleton]

lemma isHexDigit_of_mem_hex {k n : Nat} {c : Char} (h : c ∈ hex k n) : IsHexDigit c := by
  induction k generalizing n with
  | zero => exact absurd h List.not_mem_nil
  | succ k ih =>
    rw [hex, List.mem_append, List.mem_singleton] at h
    rcases h with hinit | rfl
    · exact ih hinit
    · exact isHexDigit_digitChar (Nat.mod_lt n (by decide))

lemma rowValue_hex {k n : Nat} (h : n < 16 ^ k) : rowValue (hex k n) = n := by
  induction k generalizing n with
  | zero =>
    have : n = 0 := by simpa using h
    rw [this]
    rfl
  | succ k ih =>
    have hinit : n / 16 < 16 ^ k := Nat.div_lt_of_lt_mul (by rwa [pow_succ'] at h)
    rw [hex, rowValue_append, ih hinit, rowValue_singleton,
      digitValue_digitChar (Nat.mod_lt n (by decide)), List.length_singleton, pow_one]
    omega

/-- As many digits as a number needs, or more, are a row for it. -/
lemma spells_hex {k n : Nat} (hk : k ≠ 0) (h : n < 16 ^ k) : Spells (hex k n) n where
  ne_nil hnil := hk (by rw [← length_hex k n, hnil, List.length_nil])
  digits _ := isHexDigit_of_mem_hex
  value := rowValue_hex h

/-! ### The shortest row -/

lemma rowValue_dropWhile (cs : List Char) : rowValue (cs.dropWhile (· == '0')) = rowValue cs := by
  induction cs with
  | nil => rfl
  | cons c cs ih =>
    rw [List.dropWhile_cons]
    split
    next hzero =>
      have hvalue : digitValue '0' = 0 := by decide
      rw [ih, rowValue_cons, eq_of_beq hzero, hvalue, Nat.zero_mul, Nat.zero_add]
    · rfl

lemma eq_zero_of_digitValue {c : Char} (h : IsHexDigit c) (hzero : digitValue c = 0) : c = '0' := by
  have hlow := toNat_lt_of_isHexDigit h
  revert h hzero
  refine forall_ascii hlow ?_
  decide +kernel

/-- Without its leading zeros a row has the digits of its value, and no others. -/
lemma Spells.plainRow_eq {cs : List Char} {n : Nat} (h : Spells cs n) :
    plainRow cs = shortest n := by
  obtain ⟨ds, hds⟩ : ∃ ds, ds = cs.dropWhile (· == '0') := ⟨_, rfl⟩
  have hdigits : ∀ c ∈ ds, IsHexDigit c := fun c hc =>
    h.digits c ((List.dropWhile_suffix _).subset (hds ▸ hc))
  have hlow : ∀ d ∈ ds.reverse.map digitValue, d < 16 := by
    intro d hd
    obtain ⟨c, hc, rfl⟩ := List.mem_map.1 hd
    exact digitValue_lt (hdigits c (List.mem_reverse.1 hc))
  have hlast : ∀ hne : ds.reverse.map digitValue ≠ [],
      (ds.reverse.map digitValue).getLast hne ≠ 0 := by
    intro hne hzero
    have hne' : ds ≠ [] := by simpa using hne
    rw [List.getLast_map, List.getLast_reverse] at hzero
    have hhead := eq_zero_of_digitValue (hdigits _ (List.head_mem hne')) hzero
    subst hds
    have := List.head_dropWhile_not (· == '0') hne'
    rw [hhead] at this
    exact absurd this (by decide)
  have hvalue : Nat.digits 16 n = ds.reverse.map digitValue := by
    rw [← h.value, ← rowValue_dropWhile, ← hds]
    exact Nat.digits_ofDigits 16 (by decide) _ hlow hlast
  rw [plainRow, shortest, hvalue, ← List.map_reverse, List.reverse_reverse, List.map_map, ← hds]
  exact List.map_congr_left fun c hc => (digitChar_digitValue (hdigits c hc)).symm

lemma rowValue_shortest (n : Nat) : rowValue (shortest n) = n := by
  rw [rowValue, shortest, ← List.map_reverse, List.reverse_reverse, List.map_map]
  conv_rhs => rw [← Nat.ofDigits_digits 16 n, ← List.map_id (Nat.digits 16 n)]
  congr 1
  exact List.map_congr_left fun d hd => digitValue_digitChar (Nat.digits_lt_base (by decide) hd)

lemma shortest_injective : Function.Injective shortest :=
  Function.LeftInverse.injective rowValue_shortest

end Digits

namespace MacAddr

/-! ### Parts of an address -/

/-- An octet in a text: a row of digits for it, behind a plus sign or not. -/
inductive SpellsOctet : List Char → UInt8 → Prop
  | plain {cs : List Char} {o : UInt8} (h : Spells cs o.toNat) : SpellsOctet cs o
  | signed {cs : List Char} {o : UInt8} (h : Spells cs o.toNat) : SpellsOctet ('+' :: cs) o

def withoutPlus : List Char → List Char
  | '+' :: cs => cs
  | cs => cs

/-- A part of a text down to what tells its octet from others. -/
def bare (part : List Char) : List Char := plainRow (withoutPlus part)

/-- The parts of a text, between its colons. -/
def parts (text : String) : List (List Char) := text.toList.splitOn ':'

lemma not_spells_plus {cs : List Char} {n : Nat} : ¬ Spells ('+' :: cs) n := fun h =>
  absurd (h.digits '+' List.mem_cons_self) (by decide)

lemma withoutPlus_of_spells {cs : List Char} {n : Nat} (h : Spells cs n) : withoutPlus cs = cs := by
  rw [withoutPlus]
  rintro cs rfl
  exact not_spells_plus h

lemma octet?_eq_some_iff {cs : List Char} {o : UInt8} : octet? cs = some o ↔ SpellsOctet cs o := by
  constructor
  · intro h
    unfold octet? at h
    split at h
    · exact .signed (octet_eq_some_iff.1 h)
    · exact .plain (octet_eq_some_iff.1 h)
  · rintro (h | h)
    · rw [octet?, octet_eq_some_iff.2 h]
      rintro cs rfl
      exact not_spells_plus h
    · exact octet_eq_some_iff.2 h

lemma SpellsOctet.bare_eq {part : List Char} {o : UInt8} (h : SpellsOctet part o) :
    bare part = shortest o.toNat := by
  cases h with
  | plain h => rw [bare, withoutPlus_of_spells h, h.plainRow_eq]
  | signed h => exact h.plainRow_eq

lemma octets_injective : Function.Injective octets := by
  rintro ⟨⟩ ⟨⟩ h
  simpa [octets] using h

lemma ofChars?_eq_some_iff {cs : List Char} {m : MacAddr} :
    ofChars? cs = some m ↔ (fields ':' cs).map octet? = m.octets.map some := by
  constructor
  · intro h
    rw [ofChars?] at h
    split at h
    next hparts => rw [hparts, ← Option.some.inj h]; rfl
    · exact nomatch h
  · intro h
    rw [ofChars?, h]
    rfl

/-- A text is read as an address if its parts are the octets, one by one. -/
lemma parse?_eq_some_iff {text : String} {m : MacAddr} :
    parse? text = some m ↔ List.Forall₂ SpellsOctet (parts text) m.octets := by
  rw [parse?, ofChars?_eq_some_iff, fields_eq_splitOn, ← List.forall₂_eq_eq_eq,
    List.forall₂_map_left_iff, List.forall₂_map_right_iff]
  simp only [octet?_eq_some_iff]
  rfl

lemma parts_text (m : MacAddr) : parts m.text = m.octets.map fun o => hex 2 o.toNat := by
  rw [parts, text, String.toList_ofList, chars, ← fields_eq_splitOn, fields_joined]
  · simp [octets]
  · intro part hpart hcolon
    obtain ⟨o, -, rfl⟩ := List.mem_map.1 hpart
    exact absurd (isHexDigit_of_mem_hex hcolon) (by decide)

/-- An address is read back from its own text. -/
lemma parse?_text (m : MacAddr) : parse? m.text = some m := by
  rw [parse?_eq_some_iff, parts_text, List.forall₂_map_left_iff, List.forall₂_same]
  exact fun o _ => .plain (spells_hex (by decide) o.toNat_lt)

lemma map_bare_parts {text : String} {m : MacAddr} (h : parse? text = some m) :
    (parts text).map bare = m.octets.map fun o => shortest o.toNat := by
  rw [← List.forall₂_eq_eq_eq, List.forall₂_map_left_iff, List.forall₂_map_right_iff]
  exact (parse?_eq_some_iff.1 h).imp fun _ _ => SpellsOctet.bare_eq

/-- One address, one list of bare parts. -/
lemma eq_iff_map_bare_parts {text text' : String} {m m' : MacAddr} (h : parse? text = some m)
    (h' : parse? text' = some m') : m = m' ↔ (parts text).map bare = (parts text').map bare := by
  have hinj : Function.Injective fun o : UInt8 => shortest o.toNat :=
    shortest_injective.comp fun _ _ => UInt8.toNat.inj
  rw [map_bare_parts h, map_bare_parts h', (List.map_injective_iff.2 hinj).eq_iff,
    octets_injective.eq_iff]

/-- **The texts of an address.** A text is read as an address exactly when it has six parts and they
spell the octets. Every address is read back from the text it is written as. Texts that are read
are of one address exactly when their parts differ in signs, leading zeros and case at most. -/
theorem parse_exact :
    (∀ text m, parse? text = some m ↔
      (parts text).length = 6 ∧ List.Forall₂ SpellsOctet (parts text) m.octets) ∧
    (∀ m : MacAddr, parse? m.text = some m) ∧
    ∀ text text' m m', parse? text = some m → parse? text' = some m' →
      (m = m' ↔ (parts text).map bare = (parts text').map bare) := by
  refine ⟨fun text m => ?_, parse?_text, fun _ _ _ _ => eq_iff_map_bare_parts⟩
  rw [parse?_eq_some_iff]
  exact ⟨fun h => ⟨h.length_eq, h⟩, And.right⟩

theorem parse_exact_signed :
    parse? "02:00:00:00:00:0a" = some ⟨2, 0, 0, 0, 0, 10⟩ ∧
      parse? "+2:0:000:0:00:+0A" = some ⟨2, 0, 0, 0, 0, 10⟩ ∧
      (parts "02:00:00:00:00:0a").map bare = (parts "+2:0:000:0:00:+0A").map bare := by
  have hplain : parse? "02:00:00:00:00:0a" = some ⟨2, 0, 0, 0, 0, 10⟩ := by decide +kernel
  have hsigned : parse? "+2:0:000:0:00:+0A" = some ⟨2, 0, 0, 0, 0, 10⟩ := by decide +kernel
  exact ⟨hplain, hsigned, (parse_exact.2.2 _ _ _ _ hplain hsigned).1 rfl⟩

end MacAddr

end PacketHost
