import PacketHost.Proofs.Labels
import PacketHost.Proofs.Packet

/-!
Writing a query, and finding the place behind it again.

A query is written in three steps, each with a size check of its own, and the checks are told apart
by what they report (`Unwritten`). What is written is the query message and nothing else, so the
name in it can be listed, and a walk over a response that repeats the question comes to the place
where writing the query has ended.
-/

namespace PacketHost

open Bytes

namespace Dns

/-- What is reported of a query that is not written to a buffer with that much room. -/
inductive Unwritten (name : String) (room : Nat) : NetError → Prop
  | header (h : room < 16) : Unwritten name room (.payloadTooLarge 16 room)
  | name (h : 16 ≤ room) (hname : room - 12 < (stem name).utf8ByteSize + 2) :
    Unwritten name room (.payloadTooLarge ((stem name).utf8ByteSize + 2) (room - 12))
  | label (h : 16 ≤ room) (hname : (stem name).utf8ByteSize + 2 ≤ room - 12)
      (hbad : ∃ p ∈ parts name, ¬ Proper p) : Unwritten name room .invalidName
  | tail (h : 16 ≤ room) (hname : (stem name).utf8ByteSize + 2 ≤ room - 12)
      (hproper : ∀ p ∈ parts name, Proper p) (htail : room < (stem name).utf8ByteSize + 18) :
    Unwritten name room (.payloadTooLarge ((stem name).utf8ByteSize + 18) room)

/-- A query of `stop` bytes has been written to the front of a buffer. -/
structure Written (id : UInt16) (name : String) (before after : Bytes) (stop : Nat) : Prop where
  length_eq : after.length = before.length
  rest : after.drop stop = before.drop stop
  header : Wire.parse? after = some (DnsHeader.query id)
  labels_eq : labels (after.drop headerLength) = (parts name).map utf8
  tail : slice after (stop - 4) stop = [0, 1, 0, 1]
  /-- A response repeats the question under a header of its own. -/
  walked {header stopper fixed address : Bytes} {ls : List Bytes} :
    header.length = headerLength → (∀ l ∈ ls, 1 ≤ l.length ∧ l.length ≤ maxLabelLength) →
      EndsName stopper → fixed.length = 10 → address.length = 4 →
        answerOffset (header ++ slice after headerLength stop ++
          (ls.flatMap encodeLabel ++ stopper) ++ fixed ++ address) =
            .ok (stop + (ls.flatMap encodeLabel ++ stopper).length + 10)

section Length

variable {name : String} {room : Nat}

/-- The checks one after the other. -/
lemma queryLength_eq (name : String) (room : Nat) :
    queryLength name room =
      if room < 16 then .error (.payloadTooLarge 16 room)
      else if room - 12 < (stem name).utf8ByteSize + 2 then
        .error (.payloadTooLarge ((stem name).utf8ByteSize + 2) (room - 12))
      else if ∀ p ∈ parts name, Proper p then
        if room < (stem name).utf8ByteSize + 18 then
          .error (.payloadTooLarge ((stem name).utf8ByteSize + 18) room)
        else .ok ((stem name).utf8ByteSize + 18)
      else .error .invalidName := by
  have hlabels : (nameLabels name).all isLabel = true ↔ ∀ p ∈ parts name, Proper p := by
    rw [List.all_eq_true, isLabel_nameLabels_iff]
  have hstop : headerLength + ((stem name).utf8ByteSize + 2) + 4 =
      (stem name).utf8ByteSize + 18 := by
    simp only [headerLength]
    omega
  simp only [queryLength, length_nameBytes, hlabels, hstop]
  rfl

lemma unwritten_or (name : String) (room : Nat) :
    (∃ e, Unwritten name room e) ∨
      ((∀ p ∈ parts name, Proper p) ∧ (stem name).utf8ByteSize + 18 ≤ room) := by
  rcases Nat.lt_or_ge room 16 with hheader | hheader
  · exact .inl ⟨_, .header hheader⟩
  rcases Nat.lt_or_ge (room - 12) ((stem name).utf8ByteSize + 2) with hname | hname
  · exact .inl ⟨_, .name hheader hname⟩
  by_cases hproper : ∀ p ∈ parts name, Proper p
  · rcases Nat.lt_or_ge room ((stem name).utf8ByteSize + 18) with htail | htail
    · exact .inl ⟨_, .tail hheader hname hproper htail⟩
    · exact .inr ⟨hproper, htail⟩
  · exact .inl ⟨_, .label hheader hname (by simpa using hproper)⟩

lemma queryLength_of_unwritten {e : NetError} (h : Unwritten name room e) :
    queryLength name room = .error e := by
  rw [queryLength_eq]
  cases h with
  | header h => rw [if_pos h]
  | name h hname => rw [if_neg (Nat.not_lt.2 h), if_pos hname]
  | label h hname hbad =>
    rw [if_neg (Nat.not_lt.2 h), if_neg (Nat.not_lt.2 hname), if_neg (by simpa using hbad)]
  | tail h hname hproper htail =>
    rw [if_neg (Nat.not_lt.2 h), if_neg (Nat.not_lt.2 hname), if_pos hproper, if_pos htail]

lemma queryLength_of_proper (hproper : ∀ p ∈ parts name, Proper p)
    (hroom : (stem name).utf8ByteSize + 18 ≤ room) :
    queryLength name room = .ok ((stem name).utf8ByteSize + 18) := by
  rw [queryLength_eq, if_neg (by omega), if_neg (by omega), if_pos hproper,
    if_neg (Nat.not_lt.2 hroom)]

lemma queryLength_eq_error {e : NetError} :
    queryLength name room = .error e ↔ Unwritten name room e := by
  refine ⟨fun h => ?_, queryLength_of_unwritten⟩
  rcases unwritten_or name room with ⟨e', he'⟩ | ⟨hproper, hroom⟩
  · rw [queryLength_of_unwritten he'] at h
    cases h
    exact he'
  · rw [queryLength_of_proper hproper hroom] at h
    cases h

lemma queryLength_eq_ok {n : Nat} :
    queryLength name room = .ok n ↔
      n = (stem name).utf8ByteSize + 18 ∧ (∀ p ∈ parts name, Proper p) ∧
        (stem name).utf8ByteSize + 18 ≤ room := by
  constructor
  · intro h
    rcases unwritten_or name room with ⟨e, he⟩ | ⟨hproper, hroom⟩
    · rw [queryLength_of_unwritten he] at h
      cases h
    · rw [queryLength_of_proper hproper hroom] at h
      cases h
      exact ⟨rfl, hproper, hroom⟩
  · rintro ⟨rfl, hproper, hroom⟩
    exact queryLength_of_proper hproper hroom

end Length

/-! ### The query in the buffer -/

section Message

variable {id : UInt16} {name : String} {out : Bytes}

lemma length_queryMessage_stem (id : UInt16) (name : String) :
    (queryMessage id name).length = (stem name).utf8ByteSize + 18 := by
  rw [length_queryMessage, length_nameBytes]

lemma buildQuery_of_proper (hproper : ∀ p ∈ parts name, Proper p)
    (hroom : (stem name).utf8ByteSize + 18 ≤ out.length) :
    buildQuery id name out =
      (.ok ((stem name).utf8ByteSize + 18),
        queryMessage id name ++ out.drop ((stem name).utf8ByteSize + 18)) := by
  have hlabels := (isLabel_nameLabels_iff name).2 hproper
  have hlen := length_queryMessage_stem id name
  rw [buildQuery_of_labels hlabels (by rwa [length_nameBytes]), overwrite_zero (by omega), hlen,
    length_nameBytes]

/-- What a response repeats of a query is the question. -/
lemma slice_question (rest : Bytes) :
    slice (queryMessage id name ++ rest) headerLength (queryMessage id name).length =
      question name := by
  have hheader : (Wire.encode (DnsHeader.query id)).length = headerLength :=
    LawfulWire.length_encode _
  rw [queryMessage, List.append_assoc, List.length_append, hheader]
  exact slice_append_append hheader

lemma decode_queryMessage (id : UInt16) (name : String) (rest : Bytes) :
    Wire.decode (queryMessage id name ++ rest) 0 = DnsHeader.query id := by
  rw [queryMessage, List.append_assoc]
  exact decode_append (x := []) _ rfl

lemma labels_queryMessage (id : UInt16) (hproper : ∀ p ∈ parts name, Proper p) (rest : Bytes) :
    labels ((queryMessage id name ++ rest).drop headerLength) = (parts name).map utf8 := by
  have hlabels := (isLabel_map_utf8 (parts name)).2 hproper
  have hheader : (Wire.encode (DnsHeader.query id)).length = headerLength :=
    LawfulWire.length_encode _
  rw [queryMessage, question, encodedName_eq, List.append_assoc, ← hheader, List.drop_left,
    List.append_assoc, List.append_assoc, wire_eq]
  exact labels_flatMap hlabels _

lemma written_queryMessage (hproper : ∀ p ∈ parts name, Proper p)
    (hroom : (stem name).utf8ByteSize + 18 ≤ out.length) :
    Written id name out (queryMessage id name ++ out.drop ((stem name).utf8ByteSize + 18))
      ((stem name).utf8ByteSize + 18) := by
  have hlen := length_queryMessage_stem id name
  have hheader : (Wire.encode (DnsHeader.query id)).length = headerLength :=
    LawfulWire.length_encode _
  have hname : (encodedName name).length = (stem name).utf8ByteSize + 2 := by
    rw [length_encodedName, length_nameBytes]
  have hafter : (queryMessage id name ++ out.drop ((stem name).utf8ByteSize + 18)).length =
      out.length := by
    rw [List.length_append, hlen, List.length_drop]
    omega
  refine ⟨hafter, List.drop_left' hlen, ?_, labels_queryMessage id hproper _, ?_, ?_⟩
  · rw [Wire.parse?, hafter, decode_queryMessage, if_pos]
    exact Nat.le_trans (show 12 ≤ (stem name).utf8ByteSize + 18 by omega) hroom
  · have hfront : (Wire.encode (DnsHeader.query id) ++ encodedName name).length =
        (stem name).utf8ByteSize + 18 - 4 := by
      rw [List.length_append, hheader, hname, headerLength]
      omega
    have hstop : (stem name).utf8ByteSize + 18 =
        (stem name).utf8ByteSize + 18 - 4 + questionTail.length := by
      simp [questionTail, ofWord16]
    rw [queryMessage, question, ← List.append_assoc, List.append_assoc]
    conv => lhs; rw [hstop]
    exact slice_append_append hfront
  · intro header stopper fixed address ls hlength hls hstopper hfixed haddress
    have howner : WireName (ls.flatMap encodeLabel ++ stopper) :=
      wireName_of_labels (by simpa [isLabel] using hls) hstopper
    have hasked : WireName (encodedName name) :=
      wireName_encodedName ((isLabel_nameLabels_iff name).2 hproper)
    have hwalk : answerOffset (header ++ (encodedName name ++ (questionTail ++
        ((ls.flatMap encodeLabel ++ stopper) ++ (fixed ++ (address ++ [])))))) = _ :=
      answerOffset_of_parts hlength hasked rfl howner hfixed haddress
    have hstop : headerLength + (encodedName name).length + 4 = (stem name).utf8ByteSize + 18 := by
      rw [hname, headerLength]
      omega
    rw [hstop, List.append_nil] at hwalk
    rw [← hwalk, ← hlen, slice_question, question]
    simp only [List.append_assoc]

end Message

/-- **Writing a query is exact**, and what is written is found again: a query is written if its name
has proper parts only and there is room for it, and else the first thing that stands in the way is
reported. -/
theorem buildQuery_exact (id : UInt16) (name : String) (out : Bytes) :
    (∀ n, (buildQuery id name out).1 = .ok n ↔
      n = (stem name).utf8ByteSize + 18 ∧ (∀ p ∈ parts name, Proper p) ∧
        (stem name).utf8ByteSize + 18 ≤ out.length) ∧
    (∀ e, (buildQuery id name out).1 = .error e ↔ Unwritten name out.length e) ∧
    (out.length < 16 → (buildQuery id name out).2 = out) ∧
    ∀ n, (buildQuery id name out).1 = .ok n →
      Written id name out (buildQuery id name out).2 n := by
  have hfst := buildQuery_fst id name out
  refine ⟨fun n => ?_, fun e => ?_, fun hshort => ?_, fun n hn => ?_⟩
  · rw [hfst, queryLength_eq_ok]
  · rw [hfst, queryLength_eq_error]
  · have hheader : out.length < headerLength + 4 := hshort
    rw [buildQuery, if_pos hheader]
  · rw [hfst, queryLength_eq_ok] at hn
    obtain ⟨rfl, hproper, hroom⟩ := hn
    rw [buildQuery_of_proper hproper hroom]
    exact written_queryMessage hproper hroom

/-- A query for `a.b` takes 21 bytes. In the response the owner is named by a label of its own and a
pointer. -/
theorem buildQuery_exact_dotted :
    let out : Bytes := List.replicate 22 7
    Written 0x0102 "a.b." out (buildQuery 0x0102 "a.b." out).2 21 ∧
    answerOffset ([1, 2, 0x81, 0x80, 0, 1, 0, 1, 0, 0, 0, 0] ++
      slice (buildQuery 0x0102 "a.b." out).2 12 21 ++ [1, 0x63, 0xC0, 0x0E] ++
        [0, 1, 0, 1, 0, 0, 0, 60, 0, 4] ++ [93, 184, 216, 34]) = .ok 35 ∧
    (buildQuery 0x0102 "a.b." (out.take 20)).1 = .error (.payloadTooLarge 21 20) ∧
    (buildQuery 0x0102 "a.b." (out.take 16)).1 = .error (.payloadTooLarge 5 4) ∧
    (buildQuery 0x0102 "a..b" out).1 = .error .invalidName := by
  have hparts : parts "a.b." = ["a", "b"] := by decide +kernel
  have hsize : (stem "a.b.").utf8ByteSize = 3 := by decide +kernel
  have hbad : (stem "a..b").utf8ByteSize = 4 ∧ parts "a..b" = ["a", "", "b"] := by decide +kernel
  have hproper : Proper "a" ∧ Proper "b" ∧ ¬ Proper "" := by decide +kernel
  have hall : ∀ p ∈ parts "a.b.", Proper p := by simp [hparts, hproper]
  have hwritten : Written 0x0102 "a.b." (List.replicate 22 7)
      (buildQuery 0x0102 "a.b." (List.replicate 22 7)).2 21 := by
    obtain ⟨hok, -, -, hresult⟩ := buildQuery_exact 0x0102 "a.b." (List.replicate 22 7)
    exact hresult 21 ((hok 21).2 ⟨by rw [hsize], hall, by rw [hsize]; decide⟩)
  refine ⟨hwritten, ?_, ?_, ?_, ?_⟩
  · have hlabels : ∀ l ∈ ([[0x63]] : List Bytes), 1 ≤ l.length ∧ l.length ≤ maxLabelLength := by
      simp [maxLabelLength]
    have hpointer : EndsName [0xC0, 0x0E] := .pointer 0x0E (by decide)
    exact hwritten.walked rfl hlabels hpointer rfl rfl
  · obtain ⟨-, herror, -⟩ := buildQuery_exact 0x0102 "a.b." (List.replicate 20 7)
    have htail : Unwritten "a.b." 20 (.payloadTooLarge ((stem "a.b.").utf8ByteSize + 18) 20) :=
      .tail (by decide) (by rw [hsize]; decide) hall (by rw [hsize]; decide)
    rw [hsize] at htail
    exact (herror _).2 htail
  · obtain ⟨-, herror, -⟩ := buildQuery_exact 0x0102 "a.b." (List.replicate 16 7)
    have hname : Unwritten "a.b." 16 (.payloadTooLarge ((stem "a.b.").utf8ByteSize + 2) 4) :=
      .name (by decide) (by rw [hsize]; decide)
    rw [hsize] at hname
    exact (herror _).2 hname
  · obtain ⟨-, herror, -⟩ := buildQuery_exact 0x0102 "a..b" (List.replicate 22 7)
    exact (herror _).2 (.label (by decide) (by rw [hbad.1]; decide)
      ⟨"", by simp [hbad.2], hproper.2.2⟩)

end Dns

end PacketHost
