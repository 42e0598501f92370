import PacketHost.Proofs.Names

/-!
What a response has to look like for an address to be found in it.

The walk over a response looks at lengths only, and none of them is checked before it is followed: a
label or a pointer may lead past the end, and a later step of the walk notices. So the walk is
described by where it can come to (`NameWalk`, `AnswerWalk`), once for every string. What is found
is then a matter of how the string can be taken apart, and there is one way only to do that.
-/

namespace PacketHost

open Bytes

namespace Dns

/-! ### One name -/

lemma WireName.length_pos {x : Bytes} (h : WireName x) : 0 < x.length := by
  cases h <;> simp

/-- No name is the beginning of another. -/
lemma WireName.append_inj {x y r s : Bytes} (hx : WireName x) (hy : WireName y)
    (h : x ++ r = y ++ s) : x = y ∧ r = s := by
  have hend : Except.ok (0 + x.length) = (Except.ok (0 + y.length) : Except NetError Nat) := by
    rw [← nameEnd_of_wireName hx 0 0 r, h, nameEnd_of_wireName hy]
  have hlen : x.length = y.length := by simpa using hend
  exact List.append_inj h hlen

/-- Where the walk over a name comes to that starts at `off`, with these bytes to go of `limit`:
behind the name, past the end without having noticed, or past the end. -/
inductive NameWalk (limit off : Nat) (b : Bytes) : Except NetError Nat → Prop
  | ended {x rest : Bytes} (hx : WireName x) (hb : b = x ++ rest) :
      NameWalk limit off b (.ok (off + x.length))
  | past {e : Nat} (he : limit < e) : NameWalk limit off b (.ok e)
  | ranOut {n : Nat} (hn : limit < n) : NameWalk limit off b (.error (.sizeMismatch n limit))

lemma nameWalk_nameEnd {limit off : Nat} {b : Bytes} (h : limit ≤ off + b.length) :
    NameWalk limit off b (nameEnd limit off b) := by
  fun_induction nameEnd limit off b with
  | case1 off => exact .ranOut (Nat.lt_succ_of_le h)
  | case2 off rest => exact .ended (x := [0]) .root rfl
  | case3 off v rest hv hbits =>
    cases rest with
    | nil => exact .past (Nat.lt_succ_of_le h)
    | cons w rest => exact .ended (x := [v, w]) (.pointer w hbits) rfl
  | case4 off v rest hv hbits ih =>
    rw [List.length_cons] at h
    have hwalk := ih (by rw [List.length_drop]; omega)
    generalize nameEnd limit (off + 1 + v.toNat) (rest.drop v.toNat) = result at hwalk ⊢
    cases hwalk with
    | @ended x rest' hx hb =>
      -- the name goes on, so all of the label has been there
      have hlen := congrArg List.length hb
      have hpos := hx.length_pos
      rw [List.length_drop, List.length_append] at hlen
      have hlabel : (rest.take v.toNat).length = v.toNat := by
        rw [List.length_take]
        omega
      have hname : WireName (v :: (rest.take v.toNat ++ x)) := .label hv hbits hlabel hx
      have hsplit : v :: rest = v :: (rest.take v.toNat ++ x) ++ rest' := by
        rw [List.cons_append, List.append_assoc, ← hb, List.take_append_drop]
      have hend : off + 1 + v.toNat + x.length =
          off + (v :: (rest.take v.toNat ++ x)).length := by
        rw [List.length_cons, List.length_append, hlabel]
        omega
      rw [hend]
      exact .ended hname hsplit
    | past he => exact .past he
    | ranOut hn => exact .ranOut hn

lemma nameWalk_skipName (m : Bytes) (off : Nat) :
    NameWalk m.length off (m.drop off) (skipName m off) :=
  nameWalk_nameEnd (by rw [List.length_drop]; omega)

/-! ### A response -/

/-- A response taken apart: header, question, owner name and fixed part of the first answer, and
what stands behind them, beginning with an address. -/
structure Response where
  header : Bytes
  asked : Bytes
  tail : Bytes
  owner : Bytes
  fixed : Bytes
  data : Bytes
  length_header : header.length = 12
  wireName_asked : WireName asked
  length_tail : tail.length = 4
  wireName_owner : WireName owner
  length_fixed : fixed.length = 10
  length_data : 4 ≤ data.length

namespace Response

/-- What stands in front of the address. -/
def front (p : Response) : Bytes := p.header ++ (p.asked ++ (p.tail ++ (p.owner ++ p.fixed)))

def bytes (p : Response) : Bytes := p.front ++ p.data

def addressOffset (p : Response) : Nat := p.front.length

/-- The same response with something else from the address on. -/
def withData (p : Response) (data : Bytes) (h : 4 ≤ data.length) : Response :=
  { p with data, length_data := h }

variable (p q : Response)

lemma bytes_withData {data : Bytes} (h : 4 ≤ data.length) :
    (p.withData data h).bytes = p.front ++ data := rfl

lemma addressOffset_eq :
    p.addressOffset = headerLength + p.asked.length + 4 + p.owner.length + 10 := by
  simp only [addressOffset, front, List.length_append, p.length_header, p.length_tail,
    p.length_fixed, headerLength]
  omega

lemma length_bytes : p.bytes.length = p.addressOffset + p.data.length := List.length_append

lemma answerOffset_bytes : answerOffset p.bytes = .ok p.addressOffset := by
  have haddress : (p.data.take 4).length = 4 := by
    rw [List.length_take]
    exact Nat.min_eq_left p.length_data
  have hbytes : p.bytes = p.header ++ (p.asked ++ (p.tail ++ (p.owner ++ (p.fixed ++
      (p.data.take 4 ++ p.data.drop 4))))) := by
    rw [List.take_append_drop, bytes, front]
    simp only [List.append_assoc]
  rw [addressOffset_eq, hbytes]
  exact answerOffset_of_parts p.length_header p.wireName_asked p.length_tail p.wireName_owner
    p.length_fixed haddress

variable {p q}

/-- A response can be taken apart in one way only. -/
lemma bytes_injective (h : p.bytes = q.bytes) : p = q := by
  obtain ⟨header, asked, tail, owner, fixed, data, h1, h2, h3, h4, h5, h6⟩ := p
  obtain ⟨header', asked', tail', owner', fixed', data', h1', h2', h3', h4', h5', h6'⟩ := q
  simp only [bytes, front, List.append_assoc] at h
  obtain ⟨rfl, hasked⟩ := List.append_inj h (h1.trans h1'.symm)
  obtain ⟨rfl, htail⟩ := h2.append_inj h2' hasked
  obtain ⟨rfl, howner⟩ := List.append_inj htail (h3.trans h3'.symm)
  obtain ⟨rfl, hfixed⟩ := h4.append_inj h4' howner
  obtain ⟨rfl, rfl⟩ := List.append_inj hfixed (h5.trans h5'.symm)
  rfl

end Response

/-- Where the walk over a response comes to: to the address, or past the end. -/
inductive AnswerWalk (m : Bytes) : Except NetError Nat → Prop
  | found (p : Response) (hp : p.bytes = m) : AnswerWalk m (.ok p.addressOffset)
  | ranOut {n : Nat} (hn : m.length < n) : AnswerWalk m (.error (.sizeMismatch n m.length))

/-- A string with two names where they have to be, and enough behind them, is a response. -/
lemma exists_response {m asked rest owner rest' : Bytes} (hm : m.drop headerLength = asked ++ rest)
    (hasked : WireName asked) (hrest : rest.drop 4 = owner ++ rest') (howner : WireName owner)
    (hroom : 14 ≤ rest'.length) : ∃ p : Response, p.bytes = m ∧
      p.addressOffset = headerLength + asked.length + 4 + owner.length + 10 := by
  have hlength := congrArg List.length hm
  have hlength' := congrArg List.length hrest
  have hpos := hasked.length_pos
  have hpos' := howner.length_pos
  rw [List.length_drop, List.length_append] at hlength hlength'
  have h12 : 12 ≤ m.length := show headerLength ≤ m.length by omega
  let p : Response :=
    { header := m.take headerLength
      asked
      tail := rest.take 4
      owner
      fixed := rest'.take 10
      data := rest'.drop 10
      length_header := by
        rw [List.length_take]
        exact Nat.min_eq_left h12
      wireName_asked := hasked
      length_tail := by
        rw [List.length_take]
        omega
      wireName_owner := howner
      length_fixed := by
        rw [List.length_take]
        omega
      length_data := by
        rw [List.length_drop]
        omega }
  refine ⟨p, ?_, p.addressOffset_eq⟩
  simp only [p, Response.bytes, Response.front, List.append_assoc, List.take_append_drop]
  rw [← hrest, List.take_append_drop, ← hm, List.take_append_drop]

/-- Behind the question, what is left to be seen is that nothing but a response lets the walk come
to an end in time. -/
lemma answerWalk_of_question {m : Bytes} {question : Nat}
    (hquestion : skipName m headerLength = .ok question)
    (hfound : ∀ owner, skipName m (question + 4) = .ok owner → owner + 10 + 4 ≤ m.length →
      ∃ p : Response, p.bytes = m ∧ p.addressOffset = owner + 10) :
    AnswerWalk m (answerOffset m) := by
  have hwalk := nameWalk_skipName m (question + 4)
  cases howner : skipName m (question + 4) with
  | error e =>
    rw [howner] at hwalk
    simp only [answerOffset, hquestion, howner, bind, Except.bind]
    cases hwalk with
    | ranOut hn => exact .ranOut hn
  | ok owner =>
    simp only [answerOffset, hquestion, howner, bind, Except.bind]
    split
    next hlong => exact .ranOut hlong
    next hroom =>
      obtain ⟨p, hp, hoffset⟩ := hfound owner howner (Nat.not_lt.1 hroom)
      rw [← hoffset]
      exact .found p hp

lemma answerWalk_answerOffset (m : Bytes) : AnswerWalk m (answerOffset m) := by
  have hwalk := nameWalk_skipName m headerLength
  generalize hquestion : skipName m headerLength = result at hwalk
  cases hwalk with
  | ranOut hn =>
    rw [answerOffset, hquestion]
    exact .ranOut hn
  | @past question hpast =>
    -- no walk leads back
    refine answerWalk_of_question hquestion fun owner howner hroom => ?_
    have hwalk' := nameWalk_skipName m (question + 4)
    rw [howner] at hwalk'
    cases hwalk' with
    | ended hx hb => omega
    | past he => omega
  | @ended asked rest hasked hm =>
    refine answerWalk_of_question hquestion fun owner howner hroom => ?_
    have hwalk' := nameWalk_skipName m (headerLength + asked.length + 4)
    rw [← List.drop_drop, ← List.drop_drop, hm, List.drop_left, howner] at hwalk'
    cases hwalk' with
    | past he => omega
    | @ended name rest' hname hrest =>
      refine exists_response hm hasked hrest hname ?_
      have hpos := hname.length_pos
      have hlength := congrArg List.length hm
      have hlength' := congrArg List.length hrest
      rw [List.length_drop, List.length_append] at hlength hlength'
      omega

/-! ### Longer and shorter responses -/

namespace Response

variable (p : Response)

lemma answerOffset_append (more : Bytes) :
    answerOffset (p.bytes ++ more) = .ok p.addressOffset := by
  have hdata : 4 ≤ (p.data ++ more).length := by
    rw [List.length_append]
    exact Nat.le_add_right_of_le p.length_data
  rw [bytes, List.append_assoc, ← p.bytes_withData hdata]
  exact answerOffset_bytes _

/-- A response may be cut behind the address. -/
lemma answerOffset_take {n : Nat} (hn : p.addressOffset + 4 ≤ n) :
    answerOffset (p.bytes.take n) = .ok p.addressOffset := by
  have hdata : 4 ≤ (p.data.take (n - p.addressOffset)).length := by
    have := p.length_data
    rw [List.length_take]
    omega
  have htake : p.bytes.take n = (p.withData _ hdata).bytes := by
    rw [bytes_withData, bytes, List.take_append, List.take_of_length_le]
    · rfl
    · exact Nat.le_trans (Nat.le_add_right _ 4) hn
  rw [htake]
  exact answerOffset_bytes _

/-- Nothing shorter is a response. -/
lemma answerOffset_take_of_lt {n : Nat} (hn : n < p.addressOffset + 4) :
    ∃ k, n < k ∧ answerOffset (p.bytes.take n) = .error (.sizeMismatch k n) := by
  have hlen : (p.bytes.take n).length = n := by
    have := p.length_data
    rw [List.length_take, length_bytes]
    omega
  have hwalk := answerWalk_answerOffset (p.bytes.take n)
  generalize hresult : answerOffset (p.bytes.take n) = result at hwalk
  cases hwalk with
  | @ranOut k hk =>
    rw [hlen] at hk ⊢
    exact ⟨k, hk, rfl⟩
  | found q hq =>
    -- what is found in the beginning is found in the whole
    have hwhole := q.answerOffset_append (p.bytes.drop n)
    rw [hq, List.take_append_drop, answerOffset_bytes] at hwhole
    have hsame : p.addressOffset = q.addressOffset := Except.ok.inj hwhole
    have hdata := q.length_data
    rw [← hq, length_bytes] at hlen
    omega

end Response

/-- **Where an address is found.** Exactly in the strings that can be taken apart as a response, and
these can be taken apart in one way only, at the place where what stands behind the fixed part of
the answer begins; in any other string the walk runs past the end, and says so. What comes behind
the address makes no difference, and whatever ends before it is no response. -/
theorem answerOffset_exact (m : Bytes) :
    (∀ off, answerOffset m = .ok off ↔ ∃ p : Response, p.bytes = m ∧ p.addressOffset = off) ∧
    (∀ p q : Response, p.bytes = m → q.bytes = m → p = q) ∧
    ((¬ ∃ p : Response, p.bytes = m) →
      ∃ n, m.length < n ∧ answerOffset m = .error (.sizeMismatch n m.length)) ∧
    ∀ off, answerOffset m = .ok off →
      off + 4 ≤ m.length ∧
      (∀ n, off + 4 ≤ n → answerOffset (m.take n) = .ok off) ∧
      (∀ more, answerOffset (m ++ more) = .ok off) ∧
      ∀ n < off + 4, ∃ k, n < k ∧ answerOffset (m.take n) = .error (.sizeMismatch k n) := by
  have hwalk := answerWalk_answerOffset m
  have hfound (off : Nat) (h : answerOffset m = .ok off) :
      ∃ p : Response, p.bytes = m ∧ p.addressOffset = off := by
    rw [h] at hwalk
    cases hwalk with
    | found p hp => exact ⟨p, hp, rfl⟩
  refine ⟨fun off => ⟨hfound off, ?_⟩, ?_, fun hnone => ?_, fun off h => ?_⟩
  · rintro ⟨p, rfl, rfl⟩
    exact p.answerOffset_bytes
  · rintro p q hp hq
    exact Response.bytes_injective (hp.trans hq.symm)
  · generalize answerOffset m = result at hwalk
    cases hwalk with
    | found p hp => exact absurd ⟨p, hp⟩ hnone
    | ranOut hn => exact ⟨_, hn, rfl⟩
  · obtain ⟨p, rfl, rfl⟩ := hfound off h
    exact ⟨answerOffset_le h, fun n => p.answerOffset_take, p.answerOffset_append,
      fun n => p.answerOffset_take_of_lt⟩

/-- A response for `a`, with a pointer to the name in the question and a byte too many. -/
def pointingResponse : Bytes :=
  [0x01, 0x00, 0x81, 0x80, 0, 1, 0, 1, 0, 0, 0, 0, 1, 0x61, 0, 0, 1, 0, 1,
    0xC0, 0x0C, 0, 1, 0, 1, 0, 0, 0, 60, 0, 4, 93, 184, 216, 34, 0xFF]

/-- The address is found without the last byte as well, but not without the last two; and a pointer
with nothing behind it leads past the end. -/
theorem answerOffset_exact_pointing :
    answerOffset pointingResponse = .ok 31 ∧ answerOffset (pointingResponse.take 35) = .ok 31 ∧
    (∃ k, 34 < k ∧ answerOffset (pointingResponse.take 34) = .error (.sizeMismatch k 34)) ∧
    ∃ n, 20 < n ∧ answerOffset (pointingResponse.take 20) = .error (.sizeMismatch n 20) := by
  have hok : answerOffset pointingResponse = .ok 31 := by decide +kernel
  have herror : answerOffset (pointingResponse.take 20) = .error (.sizeMismatch 35 20) := by
    decide +kernel
  have hnone : ¬ ∃ p : Response, p.bytes = pointingResponse.take 20 := by
    rintro ⟨p, hp⟩
    rw [← hp, p.answerOffset_bytes] at herror
    cases herror
  obtain ⟨-, hlonger, -, hshorter⟩ := (answerOffset_exact pointingResponse).2.2.2 31 hok
  exact ⟨hok, hlonger 35 (Nat.le_refl _), hshorter 34 (by decide),
    (answerOffset_exact (pointingResponse.take 20)).2.2.1 hnone⟩

end Dns

end PacketHost
