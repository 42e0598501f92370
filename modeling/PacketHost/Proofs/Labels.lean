import PacketHost.Proofs.Names

/-!
Names and their labels: writing a name, and listing the labels of what was written.

A name is a text, and what is written and listed are bytes. The two sides meet in the UTF-8 form: no
character but the dot has the byte of the dot in its form (`dot_mem_utf8EncodeChar`), so a text and
its bytes are cut at the same places (`nameLabels_eq`), and the parts of a name are its labels.
-/

namespace PacketHost

open Bytes Separated

namespace Dns

/-! ### The parts of a name -/

/-- A name without the one dot that may end it. -/
def stem (name : String) : String :=
  if name.toList.getLast? = some '.' then .ofList name.toList.dropLast else name

/-- What stands between the dots of a name. -/
def parts (name : String) : List String := (fields '.' (stem name).toList).map .ofList

/-- A part of a name that can be written as a label. -/
def Proper (part : String) : Prop :=
  1 ≤ part.utf8ByteSize ∧ part.utf8ByteSize ≤ maxLabelLength

instance (part : String) : Decidable (Proper part) :=
  inferInstanceAs (Decidable (1 ≤ part.utf8ByteSize ∧ part.utf8ByteSize ≤ maxLabelLength))

def utf8 (s : String) : Bytes := s.toUTF8.data.toList

/-- The parts of a name one behind the other, each after its length. -/
def wire (ps : List String) : Bytes := ps.flatMap fun p => encodeLabel (utf8 p)

/-! ### A text and its bytes -/

@[simp] lemma length_utf8 (s : String) : (utf8 s).length = s.utf8ByteSize := by
  rw [utf8, String.toUTF8_eq_toByteArray, Array.length_toList]
  rfl

lemma utf8_ofList (cs : List Char) : utf8 (.ofList cs) = cs.flatMap String.utf8EncodeChar := by
  rw [utf8, String.toUTF8_eq_toByteArray, String.toByteArray_ofList, List.utf8Encode,
    List.toList_data_toByteArray]

lemma utf8_eq (s : String) : utf8 s = s.toList.flatMap String.utf8EncodeChar := by
  rw [← utf8_ofList, String.ofList_toList]

lemma utf8_injective {s t : String} (h : utf8 s = utf8 t) : s = t := by
  simp only [utf8, String.toUTF8_eq_toByteArray] at h
  exact String.toByteArray_inj.1 (ByteArray.ext (Array.toList_inj.1 h))

lemma utf8EncodeChar_dot : String.utf8EncodeChar '.' = [dot] := rfl

lemma dot_eq_ofNat {n : Nat} (hn : n < 256) (h : dot = UInt8.ofNat n) : n = 46 := by
  have hval : 46 = n % 256 := by simpa [dot] using congrArg UInt8.toNat h
  omega

/-- All bytes of a longer form have the top bit set. -/
lemma dot_mem_utf8EncodeChar {c : Char} (h : dot ∈ String.utf8EncodeChar c) : c = '.' := by
  unfold String.utf8EncodeChar at h
  dsimp only at h
  split at h
  next hascii =>
    have hval : c.val.toNat = 46 := dot_eq_ofNat (by omega) (List.mem_singleton.1 h)
    exact Char.ext (UInt32.toNat.inj hval)
  next =>
    exfalso
    have hnone : ∀ n, 128 ≤ n → n < 256 → dot ≠ UInt8.ofNat n := fun n hle hlt heq => by
      have := dot_eq_ofNat hlt heq
      omega
    split at h
    · simp only [List.mem_cons, List.not_mem_nil, or_false] at h
      rcases h with h | h <;> exact hnone _ (by omega) (by omega) h
    split at h
    · simp only [List.mem_cons, List.not_mem_nil, or_false] at h
      rcases h with h | h | h <;> exact hnone _ (by omega) (by omega) h
    · simp only [List.mem_cons, List.not_mem_nil, or_false] at h
      rcases h with h | h | h | h <;> exact hnone _ (by omega) (by omega) h

lemma flatMap_joined (fs : List (List Char)) :
    (joined '.' fs).flatMap String.utf8EncodeChar =
      joined dot (fs.map fun f => f.flatMap String.utf8EncodeChar) := by
  induction fs with
  | nil => rfl
  | cons f fs ih =>
    by_cases hfs : fs = []
    · rw [hfs]
      rfl
    · have hmap : (fs.map fun f => f.flatMap String.utf8EncodeChar) ≠ [] := by
        simpa using hfs
      rw [joined_cons hfs, List.map_cons, joined_cons hmap, List.flatMap_append, List.flatMap_cons,
        utf8EncodeChar_dot, ih]
      rfl

/-- A text and its bytes are cut at the same places. -/
lemma fields_flatMap (cs : List Char) :
    fields dot (cs.flatMap String.utf8EncodeChar) =
      (fields '.' cs).map fun f => f.flatMap String.utf8EncodeChar := by
  have hfree : ∀ f ∈ (fields '.' cs).map fun f => f.flatMap String.utf8EncodeChar, dot ∉ f := by
    intro f hf hdot
    obtain ⟨g, hg, rfl⟩ := List.mem_map.1 hf
    obtain ⟨c, hc, hdot⟩ := List.mem_flatMap.1 hdot
    exact not_mem_of_mem_fields hg (dot_mem_utf8EncodeChar hdot ▸ hc)
  rw [← fields_joined (by simpa using fields_ne_nil '.' cs) hfree, ← flatMap_joined, joined_fields]

lemma nameBytes_eq (name : String) : nameBytes name = utf8 (stem name) := by
  have hbytes : nameBytes name = dropTrailingDot (utf8 name) := rfl
  rw [hbytes, utf8_eq name, stem, dropTrailingDot]
  rcases List.eq_nil_or_concat name.toList with hnil | ⟨cs, c, hcs⟩
  · have hname : name = "" := String.toList_eq_nil_iff.1 hnil
    subst hname
    rfl
  rw [hcs, List.concat_eq_append, List.flatMap_append, List.flatMap_singleton,
    List.getLast?_append, List.getLast?_append]
  by_cases hc : c = '.'
  · subst hc
    have hlast : [dot].getLast?.or (cs.flatMap String.utf8EncodeChar).getLast? = some dot := rfl
    have hchar : ['.'].getLast?.or cs.getLast? = some '.' := rfl
    rw [utf8EncodeChar_dot, if_pos hlast, if_pos hchar, List.dropLast_concat, List.dropLast_concat,
      utf8_ofList]
  · have hlast : ¬ (String.utf8EncodeChar c).getLast?.or
        (cs.flatMap String.utf8EncodeChar).getLast? = some dot := by
      rw [List.getLast?_eq_some_getLast String.utf8EncodeChar_ne_nil, Option.some_or,
        Option.some_inj]
      exact fun h => hc (dot_mem_utf8EncodeChar (h ▸ List.getLast_mem _))
    have hchar : ¬ [c].getLast?.or cs.getLast? = some '.' := by
      simpa using hc
    rw [if_neg hlast, if_neg hchar, utf8_eq, hcs, List.concat_eq_append, List.flatMap_append,
      List.flatMap_singleton]

/-- The labels of a name are its parts. -/
lemma nameLabels_eq (name : String) : nameLabels name = (parts name).map utf8 := by
  rw [nameLabels, nameBytes_eq, utf8_eq, fields_flatMap, parts, List.map_map]
  exact List.map_congr_left fun f _ => (utf8_ofList f).symm

lemma isLabel_utf8 (p : String) : isLabel (utf8 p) = decide (Proper p) := by
  rw [isLabel, length_utf8, ← Bool.decide_and]
  rfl

/-! ### Cutting and joining -/

lemma ofList_joined (fs : List (List Char)) :
    ".".intercalate (fs.map .ofList) = .ofList (joined '.' fs) := by
  induction fs with
  | nil => rfl
  | cons f fs ih =>
    by_cases hfs : fs = []
    · simp [hfs, joined]
    · rw [List.map_cons, String.intercalate_cons_of_ne_nil (by simpa using hfs), ih,
        joined_cons hfs, ← List.singleton_append, ← List.append_assoc, String.ofList_append,
        String.ofList_append]

lemma intercalate_parts (name : String) : ".".intercalate (parts name) = stem name := by
  rw [parts, ofList_joined, joined_fields, String.ofList_toList]

lemma eq_stem_or (name : String) : name = stem name ∨ name = stem name ++ "." := by
  unfold stem
  split
  next hlast =>
    right
    obtain ⟨cs, hcs⟩ := List.getLast?_eq_some_iff.1 hlast
    rw [hcs, List.dropLast_concat, ← String.toList_inj, hcs, String.toList_append,
      String.toList_ofList]
    rfl
  · exact .inl rfl

/-- What is joined from fields with something in them ends in something else than a separator. -/
lemma getLast?_joined {fs : List (List Char)} (hne : fs ≠ []) (h : ∀ f ∈ fs, f ≠ [] ∧ '.' ∉ f) :
    ∃ c, c ≠ '.' ∧ (joined '.' fs).getLast? = some c := by
  induction fs with
  | nil => exact absurd rfl hne
  | cons f fs ih =>
    by_cases hfs : fs = []
    · obtain ⟨hf, hdot⟩ := h f List.mem_cons_self
      subst hfs
      exact ⟨f.getLast hf, fun heq => hdot (heq ▸ List.getLast_mem hf),
        List.getLast?_eq_some_getLast hf⟩
    · obtain ⟨c, hc, hlast⟩ := ih hfs fun g hg => h g (List.mem_cons_of_mem f hg)
      refine ⟨c, hc, ?_⟩
      rw [joined_cons hfs, List.getLast?_append, List.getLast?_cons, hlast]
      rfl

lemma parts_intercalate {ls : List String} (hne : ls ≠ [])
    (h : ∀ l ∈ ls, '.' ∉ l.toList ∧ Proper l) : parts (".".intercalate ls) = ls := by
  have hofList : (ls.map String.toList).map String.ofList = ls := by
    rw [List.map_map]
    exact (List.map_congr_left fun l _ => String.ofList_toList).trans (List.map_id ls)
  have hmap : ls.map String.toList ≠ [] := by simpa using hne
  have hfields : ∀ f ∈ ls.map String.toList, f ≠ [] ∧ '.' ∉ f := by
    intro f hf
    obtain ⟨l, hl, rfl⟩ := List.mem_map.1 hf
    obtain ⟨hdot, hsize, -⟩ := h l hl
    refine ⟨fun hnil => ?_, hdot⟩
    rw [String.toList_eq_nil_iff.1 hnil] at hsize
    exact absurd hsize (by decide)
  have hjoined : ".".intercalate ls = .ofList (joined '.' (ls.map String.toList)) := by
    rw [← ofList_joined, hofList]
  obtain ⟨c, hc, hlast⟩ := getLast?_joined hmap hfields
  have hstem : stem (".".intercalate ls) = ".".intercalate ls := by
    rw [stem, hjoined, String.toList_ofList, hlast, if_neg (by simpa using hc)]
  rw [parts, hstem, hjoined, String.toList_ofList,
    fields_joined hmap fun f hf => (hfields f hf).2, hofList]

/-! ### Writing and listing -/

/-- Labels in front of a zero length are listed as they are, whatever follows. -/
lemma labels_flatMap {ls : List Bytes} (h : ∀ l ∈ ls, isLabel l = true) (rest : Bytes) :
    labels (ls.flatMap encodeLabel ++ 0 :: rest) = ls := by
  have hbits : ∀ n < 64, UInt8.ofNat n &&& 0xC0 = 0 := by decide
  induction ls with
  | nil => simp [labels]
  | cons l ls ih =>
    have hl := h l List.mem_cons_self
    obtain ⟨hne, -, hlen⟩ := length_isLabel hl
    have hle : l.length ≤ 63 := by
      simp only [isLabel, Bool.and_eq_true, decide_eq_true_eq] at hl
      exact hl.2
    have htail := ih fun l' hl' => h l' (List.mem_cons_of_mem l hl')
    rw [List.flatMap_cons, encodeLabel, List.cons_append, List.cons_append, List.append_assoc,
      labels, ← hlen, List.take_left, List.drop_left, htail, if_neg]
    rintro (hzero | hpointer | hshort)
    · exact hne hzero
    · exact hpointer (hbits l.length (by omega))
    · omega

lemma wire_eq (ps : List String) : wire ps = (ps.map utf8).flatMap encodeLabel := by
  rw [wire, List.flatMap_map]

lemma isLabel_map_utf8 (ps : List String) :
    (∀ l ∈ ps.map utf8, isLabel l = true) ↔ ∀ p ∈ ps, Proper p := by
  rw [List.forall_mem_map]
  exact forall₂_congr fun p _ => by rw [isLabel_utf8, decide_eq_true_iff]

lemma labels_wire {ps : List String} (h : ∀ p ∈ ps, Proper p) :
    labels (wire ps ++ [0]) = ps.map utf8 := by
  rw [wire_eq]
  exact labels_flatMap ((isLabel_map_utf8 ps).2 h) []

/-- Proper parts can be told from their bytes. -/
lemma wire_inj {ps qs : List String} (hps : ∀ p ∈ ps, Proper p) (hqs : ∀ q ∈ qs, Proper q)
    (h : wire ps = wire qs) : ps = qs := by
  have hbytes : ps.map utf8 = qs.map utf8 := by
    rw [← labels_wire hps, ← labels_wire hqs, h]
  exact (List.map_inj_right fun _ _ => utf8_injective).1 hbytes

section Written

variable (name : String) (out : Bytes)

lemma encodedName_eq : encodedName name = wire (parts name) ++ [0] := by
  rw [encodedName, nameLabels_eq, wire_eq]

lemma length_nameBytes : (nameBytes name).length = (stem name).utf8ByteSize := by
  rw [nameBytes_eq, length_utf8]

lemma length_wire_parts : (wire (parts name)).length = (stem name).utf8ByteSize + 1 := by
  have hlength := length_encodedName name
  rw [encodedName_eq, List.length_append, length_nameBytes, List.length_singleton] at hlength
  omega

lemma length_wire_takeWhile :
    (wire ((parts name).takeWhile fun p => decide (Proper p))).length ≤
      (stem name).utf8ByteSize + 1 := by
  have hsplit := List.takeWhile_append_dropWhile (p := fun p => decide (Proper p)) (l := parts name)
  rw [← length_wire_parts]
  conv => rhs; rw [← hsplit]
  rw [wire, wire, List.flatMap_append, List.length_append]
  exact Nat.le_add_right _ _

lemma isLabel_nameLabels_iff :
    (∀ l ∈ nameLabels name, isLabel l = true) ↔ ∀ p ∈ parts name, Proper p := by
  rw [nameLabels_eq, isLabel_map_utf8]

variable {name out}

lemma encodeName_of_lt (h : out.length < (stem name).utf8ByteSize + 2) :
    encodeName name out =
      (.error (.payloadTooLarge ((stem name).utf8ByteSize + 2) out.length), out) := by
  rw [encodeName, length_nameBytes]
  exact if_pos h

/-- A name with a bad part is given up there; the parts before it have been written. -/
lemma encodeName_of_bad (hroom : (stem name).utf8ByteSize + 2 ≤ out.length)
    (hbad : ∃ p ∈ parts name, ¬ Proper p) :
    encodeName name out =
      (.error .invalidName, wire ((parts name).takeWhile fun p => decide (Proper p)) ++
        out.drop (wire ((parts name).takeWhile fun p => decide (Proper p))).length) := by
  have hall : ¬ (nameLabels name).all isLabel = true := by
    rw [List.all_eq_true, isLabel_nameLabels_iff]
    obtain ⟨p, hp, hproper⟩ := hbad
    exact fun h => hproper (h p hp)
  have hwritten : ((nameLabels name).takeWhile isLabel).flatMap encodeLabel =
      wire ((parts name).takeWhile fun p => decide (Proper p)) := by
    rw [nameLabels_eq, List.takeWhile_map, wire_eq]
    congr 3
    funext p
    exact isLabel_utf8 p
  have hlength := length_wire_takeWhile name
  rw [encodeName, length_nameBytes]
  dsimp only
  rw [if_neg (Nat.not_lt.2 hroom), if_neg hall, hwritten, overwrite_zero (by omega)]

lemma encodeName_of_proper (hroom : (stem name).utf8ByteSize + 2 ≤ out.length)
    (hproper : ∀ p ∈ parts name, Proper p) :
    encodeName name out = (.ok ((stem name).utf8ByteSize + 2),
      wire (parts name) ++ [0] ++ out.drop ((stem name).utf8ByteSize + 2)) := by
  rw [encodeName_of_labels ((isLabel_nameLabels_iff name).2 hproper)
    (by rw [length_nameBytes]; exact hroom), overwrite_zero (by
      rw [length_encodedName, length_nameBytes]; exact hroom),
    length_encodedName, encodedName_eq, length_nameBytes]

/-- What a name was encoded to, where it was. -/
lemma of_encodeName {n : Nat} {out' : Bytes} (h : encodeName name out = (.ok n, out')) :
    n = (stem name).utf8ByteSize + 2 ∧ (∀ p ∈ parts name, Proper p) ∧
      out'.take n = wire (parts name) ++ [0] := by
  rcases Nat.lt_or_ge out.length ((stem name).utf8ByteSize + 2) with hroom | hroom
  · rw [encodeName_of_lt hroom] at h
    cases h
  by_cases hbad : ∃ p ∈ parts name, ¬ Proper p
  · rw [encodeName_of_bad hroom hbad] at h
    cases h
  · have hproper : ∀ p ∈ parts name, Proper p := by simpa using hbad
    rw [encodeName_of_proper hroom hproper] at h
    cases h
    refine ⟨rfl, hproper, List.take_left' ?_⟩
    rw [List.length_append, length_wire_parts]
    rfl

end Written

/-- **Encoding a name and listing its labels undo each other.** A name is written as the labels
that its parts are, or it is reported what is wrong with it: a buffer too small, which is left
alone, or a bad part, up to which the parts have been written. -/
theorem encodeName_inverse :
    (∀ (name : String) (out : Bytes),
      (out.length < (stem name).utf8ByteSize + 2 → encodeName name out =
        (.error (.payloadTooLarge ((stem name).utf8ByteSize + 2) out.length), out)) ∧
      ((stem name).utf8ByteSize + 2 ≤ out.length → (∃ p ∈ parts name, ¬ Proper p) →
        let written := wire ((parts name).takeWhile fun p => decide (Proper p))
        encodeName name out = (.error .invalidName, written ++ out.drop written.length)) ∧
      ((stem name).utf8ByteSize + 2 ≤ out.length → (∀ p ∈ parts name, Proper p) →
        ∃ out', encodeName name out = (.ok ((stem name).utf8ByteSize + 2), out') ∧
          out'.length = out.length ∧
          out'.drop ((stem name).utf8ByteSize + 2) = out.drop ((stem name).utf8ByteSize + 2) ∧
          labels (out'.take ((stem name).utf8ByteSize + 2)) = (parts name).map utf8 ∧
          ".".intercalate (parts name) = stem name)) ∧
    (∀ (ls : List String) (out : Bytes), ls ≠ [] → (∀ l ∈ ls, '.' ∉ l.toList ∧ Proper l) →
      (wire ls).length + 1 ≤ out.length →
        encodeName (".".intercalate ls) out = (.ok ((wire ls).length + 1),
          wire ls ++ [0] ++ out.drop ((wire ls).length + 1))) ∧
    (∀ (name₁ name₂ : String) (out₁ out₂ : Bytes) (n₁ n₂ : Nat) (out₁' out₂' : Bytes),
      encodeName name₁ out₁ = (.ok n₁, out₁') → encodeName name₂ out₂ = (.ok n₂, out₂') →
        out₁'.take n₁ = out₂'.take n₂ →
          name₁ = name₂ ∨ name₁ = name₂ ++ "." ∨ name₂ = name₁ ++ ".") := by
  refine ⟨fun name out => ⟨encodeName_of_lt, encodeName_of_bad, fun hroom hproper => ?_⟩,
    fun ls out hne hls hroom => ?_, fun name₁ name₂ out₁ out₂ n₁ n₂ out₁' out₂' h₁ h₂ heq => ?_⟩
  · have hlength : (wire (parts name) ++ [0]).length = (stem name).utf8ByteSize + 2 := by
      rw [List.length_append, length_wire_parts]
      rfl
    refine ⟨_, encodeName_of_proper hroom hproper, ?_, List.drop_left' hlength, ?_,
      intercalate_parts name⟩
    · rw [List.length_append, hlength, List.length_drop]
      omega
    · rw [List.take_left' hlength, labels_wire hproper]
  · have hparts := parts_intercalate hne hls
    have hlength := length_wire_parts (".".intercalate ls)
    rw [hparts] at hlength
    have hproper : ∀ p ∈ parts (".".intercalate ls), Proper p := by
      rw [hparts]
      exact fun l hl => (hls l hl).2
    rw [encodeName_of_proper (by omega) hproper, hparts, hlength]
  · obtain ⟨-, hproper₁, hwire₁⟩ := of_encodeName h₁
    obtain ⟨-, hproper₂, hwire₂⟩ := of_encodeName h₂
    rw [hwire₁, hwire₂, List.append_cancel_right_eq] at heq
    have hstem : stem name₁ = stem name₂ := by
      rw [← intercalate_parts, wire_inj hproper₁ hproper₂ heq, intercalate_parts]
    rcases eq_stem_or name₁ with h₁ | h₁ <;> rcases eq_stem_or name₂ with h₂ | h₂
    · exact .inl (h₁.trans (hstem.trans h₂.symm))
    · exact .inr (.inr (by rw [h₂, ← hstem, ← h₁]))
    · exact .inr (.inl (by rw [h₁, hstem, ← h₂]))
    · exact .inl (by rw [h₁, h₂, hstem])

theorem encodeName_inverse_dotted :
    encodeName "a.b." [7, 7, 7, 7] = (.error (.payloadTooLarge 5 4), [7, 7, 7, 7]) ∧
    encodeName "a..b" [7, 7, 7, 7, 7, 7, 7] = (.error .invalidName, [1, 0x61, 7, 7, 7, 7, 7]) ∧
    (∃ out', encodeName "a.b." [7, 7, 7, 7, 7, 7] = (.ok 5, out') ∧ out'.drop 5 = [7] ∧
      labels (out'.take 5) = [utf8 "a", utf8 "b"]) ∧
    encodeName (".".intercalate ["a", "b"]) [7, 7, 7, 7, 7, 7] =
      (.ok 5, [1, 0x61, 1, 0x62, 0, 7]) ∧
    ("a.b" = "a.b." ∨ "a.b" = "a.b." ++ "." ∨ "a.b." = "a.b" ++ ".") := by
  have hparts : parts "a.b." = ["a", "b"] := by decide +kernel
  have hsize : (stem "a.b.").utf8ByteSize = 3 := by decide +kernel
  have hbad : (stem "a..b").utf8ByteSize = 4 ∧ parts "a..b" = ["a", "", "b"] := by decide +kernel
  have hproper : Proper "a" ∧ Proper "b" ∧ ¬ Proper "" := by decide +kernel
  obtain ⟨hname, hlabels, hunique⟩ := encodeName_inverse
  refine ⟨?_, ?_, ?_, ?_, ?_⟩
  · have hshort := (hname "a.b." [7, 7, 7, 7]).1
    rw [hsize] at hshort
    exact hshort (by decide)
  · have hgiven := (hname "a..b" [7, 7, 7, 7, 7, 7, 7]).2.1
    rw [hbad.1, hbad.2] at hgiven
    exact hgiven (by decide) ⟨"", by simp, hproper.2.2⟩
  · have hwritten := (hname "a.b." [7, 7, 7, 7, 7, 7]).2.2
    rw [hsize, hparts] at hwritten
    obtain ⟨out', hout, -, hrest, hlist, -⟩ := hwritten (by decide) (by simp [hproper])
    exact ⟨out', hout, hrest, hlist⟩
  · exact hlabels ["a", "b"] [7, 7, 7, 7, 7, 7] (by simp) (by simp [hproper]) (by decide +kernel)
  · exact hunique "a.b" "a.b." [7, 7, 7, 7, 7] [7, 7, 7, 7, 7] 5 5 [1, 0x61, 1, 0x62, 0]
      [1, 0x61, 1, 0x62, 0] (by decide +kernel) (by decide +kernel) rfl

end Dns

end PacketHost
