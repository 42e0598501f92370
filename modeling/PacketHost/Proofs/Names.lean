import Mathlib.Data.List.TakeWhile
import PacketHost.Dns.Message

/-!
Domain names in messages: as they are written, and as they are walked over.

A name that is written is one of the forms that can be walked over (`wireName_encodedName`), and a
walk over any of these forms ends right behind it, whatever follows. So a question is skipped as a
whole by whoever reads it back, and what stands behind an owner name is found.
-/

namespace PacketHost

open Bytes Separated

namespace Bytes

lemma overwrite_zero {b src : Bytes} (h : src.length ≤ b.length) :
    overwrite b 0 src = src ++ b.drop src.length := by
  induction src generalizing b with
  | nil => rw [overwrite_nil]; rfl
  | cons x src ih =>
    cases b with
    | nil => simp at h
    | cons y b => simp [overwrite, ih (Nat.le_of_succ_le_succ h)]

lemma overwrite_append (a b src : Bytes) (n : Nat) :
    overwrite (a ++ b) (a.length + n) src = a ++ overwrite b n src := by
  induction a with
  | nil => simp
  | cons x a ih => simp [Nat.succ_add, overwrite, ih]

end Bytes

namespace Dns

/-! ### Names as they are written -/

/-- The name as it stands in a message. -/
def encodedName (name : String) : Bytes := (nameLabels name).flatMap encodeLabel ++ [0]

/-- What a query asks, behind its header. -/
def question (name : String) : Bytes := encodedName name ++ questionTail

def queryMessage (id : UInt16) (name : String) : Bytes :=
  Wire.encode (DnsHeader.query id) ++ question name

/-- A length in front of each label takes the room of the dots, and one byte more. -/
lemma length_flatMap_encodeLabel {ls : List Bytes} (h : ls ≠ []) :
    (ls.flatMap encodeLabel).length = (joined dot ls).length + 1 := by
  induction ls with
  | nil => exact absurd rfl h
  | cons l ls ih =>
    rcases ls with - | ⟨l', ls⟩
    · simp [joined, encodeLabel]
    · have htail := ih (List.cons_ne_nil l' ls)
      rw [List.flatMap_cons, List.length_append, htail, joined_cons (List.cons_ne_nil l' ls),
        List.length_append, List.length_cons, encodeLabel, List.length_cons]
      omega

lemma length_encodedName (name : String) :
    (encodedName name).length = (nameBytes name).length + 2 := by
  have hlabels := length_flatMap_encodeLabel (fields_ne_nil dot (nameBytes name))
  rw [joined_fields] at hlabels
  rw [encodedName, List.length_append, nameLabels, hlabels]
  rfl

@[simp] lemma length_question (name : String) :
    (question name).length = (nameBytes name).length + 6 := by
  rw [question, List.length_append, length_encodedName]
  rfl

@[simp] lemma length_queryMessage (id : UInt16) (name : String) :
    (queryMessage id name).length = (nameBytes name).length + 18 := by
  rw [queryMessage, List.length_append, LawfulWire.length_encode, length_question]
  show 12 + ((nameBytes name).length + 6) = _
  omega

section Written

variable {id : UInt16} {name : String} {out : Bytes}

lemma encodeName_of_labels (hl : ∀ l ∈ nameLabels name, isLabel l = true)
    (hlen : (nameBytes name).length + 2 ≤ out.length) :
    encodeName name out =
      (.ok ((nameBytes name).length + 2), overwrite out 0 (encodedName name)) := by
  have hall : (nameLabels name).all isLabel = true := List.all_eq_true.2 hl
  have htake : (nameLabels name).takeWhile isLabel = nameLabels name :=
    List.takeWhile_eq_self_iff.2 hl
  have hwritten : ((nameLabels name).flatMap encodeLabel).length + 1 =
      (nameBytes name).length + 2 := by
    rw [← length_encodedName, encodedName, List.length_append, List.length_singleton]
  rw [encodeName]
  dsimp only
  rw [if_neg (Nat.not_lt.2 hlen), if_pos hall, htake, hwritten, encodedName]

/-- A query for a proper name is written to the front of a buffer with enough room for it. -/
lemma buildQuery_of_labels (hl : ∀ l ∈ nameLabels name, isLabel l = true)
    (hlen : (nameBytes name).length + 18 ≤ out.length) :
    buildQuery id name out =
      (.ok ((nameBytes name).length + 18), overwrite out 0 (queryMessage id name)) := by
  have hheader : (Wire.encode (DnsHeader.query id)).length = headerLength :=
    LawfulWire.length_encode _
  have htail : (out.drop headerLength).length = out.length - 12 := List.length_drop
  have hname : encodeName name (out.drop headerLength) =
      (.ok ((nameBytes name).length + 2),
        overwrite (out.drop headerLength) 0 (encodedName name)) :=
    encodeName_of_labels hl (by omega)
  have hstop : headerLength + ((nameBytes name).length + 2) + 4 = (nameBytes name).length + 18 := by
    show 12 + ((nameBytes name).length + 2) + 4 = _
    omega
  have hroom : ¬ out.length < headerLength + 4 := show ¬ out.length < 12 + 4 by omega
  rw [buildQuery, if_neg hroom]
  dsimp only
  rw [hname]
  dsimp only
  rw [hstop, if_neg (by omega)]
  -- the three parts one behind the other, and what was in the buffer
  have hparts : overwrite (overwrite (out.drop headerLength) 0 (encodedName name))
      ((nameBytes name).length + 2) questionTail =
        overwrite (out.drop headerLength) 0 (question name) := by
    have hroom : (question name).length ≤ (out.drop headerLength).length := by
      rw [length_question, htail]
      omega
    have hfit : (encodedName name).length ≤ (out.drop headerLength).length := by
      rw [length_encodedName, htail]
      omega
    rw [overwrite_zero hroom, overwrite_zero hfit, ← length_encodedName,
      ← Nat.add_zero (encodedName name).length, overwrite_append, overwrite_zero, question,
      List.length_append, List.append_assoc, List.drop_drop, Nat.add_zero]
    rw [List.length_drop, htail, Nat.add_zero, length_encodedName]
    show 4 ≤ _
    omega
  have hfront : overwrite out 0 (queryMessage id name) =
      Wire.encode (DnsHeader.query id) ++ overwrite (out.drop headerLength) 0 (question name) := by
    rw [overwrite_zero, overwrite_zero, queryMessage, List.append_assoc, List.drop_drop,
      List.length_append, hheader]
    · rw [length_question, htail]
      omega
    · rw [length_queryMessage]
      exact hlen
  rw [hfront, ← hparts, ← hheader, overwrite_append]

end Written

/-- The length of a query for a name in a buffer with that much room, as it is reported. -/
def queryLength (name : String) (room : Nat) : Except NetError Nat :=
  let needed := (nameBytes name).length + 2
  if room < headerLength + 4 then .error (.payloadTooLarge (headerLength + 4) room)
  else if room - headerLength < needed then
    .error (.payloadTooLarge needed (room - headerLength))
  else if (nameLabels name).all isLabel then
    if room < headerLength + needed + 4 then
      .error (.payloadTooLarge (headerLength + needed + 4) room)
    else .ok (headerLength + needed + 4)
  else .error .invalidName

/-- What comes of writing a query does not depend on what is in the buffer. -/
lemma buildQuery_fst (id : UInt16) (name : String) (out : Bytes) :
    (buildQuery id name out).1 = queryLength name out.length := by
  have hdrop : (out.drop headerLength).length = out.length - headerLength := List.length_drop
  rw [buildQuery, queryLength]
  dsimp only
  by_cases hroom : out.length < headerLength + 4
  · rw [if_pos hroom, if_pos hroom]
  rw [if_neg hroom, if_neg hroom]
  by_cases hname : out.length - headerLength < (nameBytes name).length + 2
  · rw [encodeName, hdrop, if_pos hname, if_pos hname]
  rw [if_neg hname]
  by_cases hlabels : (nameLabels name).all isLabel = true
  · rw [encodeName_of_labels (List.all_eq_true.1 hlabels) (by omega), if_pos hlabels]
    dsimp only
    split <;> rfl
  · rw [encodeName, hdrop, if_neg hname, if_neg hlabels, if_neg hlabels]

lemma of_queryLength {name : String} {room n : Nat} (h : queryLength name room = .ok n) :
    (∀ l ∈ nameLabels name, isLabel l = true) ∧ (nameBytes name).length + 18 ≤ room := by
  unfold queryLength at h
  dsimp only at h
  split at h
  · cases h
  split at h
  · cases h
  split at h
  next hlabels =>
    split at h
    · cases h
    next hroom =>
      refine ⟨List.all_eq_true.1 hlabels, ?_⟩
      replace hroom : ¬ room < 12 + ((nameBytes name).length + 2) + 4 := hroom
      omega
  · cases h

/-! ### Names as they are walked over -/

/-- A name in a message: labels, up to a zero length or to a compression pointer. -/
inductive WireName : Bytes → Prop
  | root : WireName [0]
  | pointer {v : UInt8} (w : UInt8) (hv : v &&& 0xC0 = 0xC0) : WireName [v, w]
  | label {v : UInt8} {l rest : Bytes} (hv : v ≠ 0) (hbits : v &&& 0xC0 ≠ 0xC0)
      (hl : l.length = v.toNat) (h : WireName rest) : WireName (v :: (l ++ rest))

/-- A walk over a name ends behind it. -/
lemma nameEnd_of_wireName {x : Bytes} (h : WireName x) (limit off : Nat) (rest : Bytes) :
    nameEnd limit off (x ++ rest) = .ok (off + x.length) := by
  induction h generalizing off with
  | root =>
    rw [List.cons_append, nameEnd, if_pos rfl]
    rfl
  | @pointer v w hv =>
    have hne : v ≠ 0 := by
      rintro rfl
      exact absurd hv (by decide)
    rw [List.cons_append, nameEnd, if_neg hne, if_pos hv]
    rfl
  | @label v l tail hne hbits hl _ ih =>
    have hdrop : (l ++ tail ++ rest).drop v.toNat = tail ++ rest := by
      rw [← hl, List.append_assoc, List.drop_left]
    rw [List.cons_append, nameEnd, if_neg hne, if_neg hbits, hdrop, ih, ← hl, List.length_cons,
      List.length_append]
    congr 1
    omega

/-- The top bits of a label's length are zero. -/
lemma length_isLabel {l : Bytes} (h : isLabel l = true) :
    UInt8.ofNat l.length ≠ 0 ∧ UInt8.ofNat l.length &&& 0xC0 ≠ 0xC0 ∧
      l.length = (UInt8.ofNat l.length).toNat := by
  simp only [isLabel, Bool.and_eq_true, decide_eq_true_eq] at h
  have hle : l.length ≤ 63 := h.2
  have hsmall : ∀ n < 64, 1 ≤ n → UInt8.ofNat n ≠ 0 ∧ UInt8.ofNat n &&& 0xC0 ≠ 0xC0 ∧
      n = (UInt8.ofNat n).toNat := by
    decide
  exact hsmall l.length (by omega) h.1

/-- What may stand behind the labels of a name. -/
inductive EndsName : Bytes → Prop
  | root : EndsName [0]
  | pointer {v : UInt8} (w : UInt8) (hv : v &&& 0xC0 = 0xC0) : EndsName [v, w]

lemma wireName_of_labels {ls : List Bytes} (h : ∀ l ∈ ls, isLabel l = true) {stop : Bytes}
    (hstop : EndsName stop) : WireName (ls.flatMap encodeLabel ++ stop) := by
  induction ls with
  | nil =>
    cases hstop with
    | root => exact .root
    | pointer w hv => exact .pointer w hv
  | cons l ls ih =>
    obtain ⟨hne, hbits, hlen⟩ := length_isLabel (h l List.mem_cons_self)
    have htail := ih fun l' hl' => h l' (List.mem_cons_of_mem l hl')
    rw [List.flatMap_cons, encodeLabel, List.cons_append, List.cons_append, List.append_assoc]
    exact .label hne hbits hlen htail

lemma wireName_encodedName {name : String} (h : ∀ l ∈ nameLabels name, isLabel l = true) :
    WireName (encodedName name) :=
  wireName_of_labels h .root

/-- The address of the first answer stands behind the question, the owner name and ten bytes. -/
lemma answerOffset_of_parts {header asked owner fixed address rest : Bytes} {tail : Bytes}
    (hheader : header.length = headerLength) (hasked : WireName asked) (htail : tail.length = 4)
    (howner : WireName owner) (hfixed : fixed.length = 10) (haddress : address.length = 4) :
    answerOffset (header ++ (asked ++ (tail ++ (owner ++ (fixed ++ (address ++ rest)))))) =
      .ok (headerLength + asked.length + 4 + owner.length + 10) := by
  generalize hm : header ++ (asked ++ (tail ++ (owner ++ (fixed ++ (address ++ rest))))) = m
  have hlength :
      m.length = headerLength + asked.length + 4 + owner.length + 10 + 4 + rest.length := by
    rw [← hm]
    simp only [List.length_append, hheader, htail, hfixed, haddress]
    omega
  have hquestion : skipName m headerLength = .ok (headerLength + asked.length) := by
    rw [skipName, ← hm, ← hheader, List.drop_left]
    exact nameEnd_of_wireName hasked _ _ _
  have hanswer : skipName m (headerLength + asked.length + 4) =
      .ok (headerLength + asked.length + 4 + owner.length) := by
    have hdrop : m.drop (headerLength + asked.length + 4) =
        owner ++ (fixed ++ (address ++ rest)) := by
      rw [← hm, ← hheader, ← htail, ← List.drop_drop, ← List.drop_drop, List.drop_left,
        List.drop_left, List.drop_left]
    rw [skipName, hdrop]
    exact nameEnd_of_wireName howner _ _ _
  have hfit : ¬ m.length < headerLength + asked.length + 4 + owner.length + 10 + 4 := by omega
  simp only [answerOffset, hquestion, hanswer, bind, Except.bind, if_neg hfit]
  rfl

/-- Wherever the walk over the names ends, the four bytes of an address are there. -/
lemma answerOffset_le {m : Bytes} {off : Nat} (h : answerOffset m = .ok off) :
    off + 4 ≤ m.length := by
  unfold answerOffset at h
  cases hquestion : skipName m headerLength with
  | error e =>
    rw [hquestion] at h
    cases h
  | ok question =>
    cases howner : skipName m (question + 4) with
    | error e =>
      simp only [hquestion, howner, bind, Except.bind] at h
      cases h
    | ok owner =>
      simp only [hquestion, howner, bind, Except.bind] at h
      split at h
      · cases h
      next hfit =>
        cases h
        exact Nat.not_lt.1 hfit

end Dns

end PacketHost
