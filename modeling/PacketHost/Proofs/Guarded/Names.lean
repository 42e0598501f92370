import PacketHost.Address
import PacketHost.Proofs.Guarded.Primitives
import PacketHost.Proofs.Names

/-!
Names and queries within the buffer.

A name is written label by label, and the only check of the room for it comes before the first: the
name is so many bytes long and takes two more. That this is enough for every way that a name can be
cut into labels is what `length_flatMap_encodeLabel` says. The loop has written the labels that it
has passed, one behind the other.

A name is read without a check of this kind, because no byte of it is taken for granted.
-/

namespace PacketHost

open Bytes Separated

/-- Two writes, one right behind the other, are one. -/
lemma Bytes.overwrite_overwrite (b : Bytes) (off : Nat) (x y : Bytes) :
    overwrite (overwrite b off x) (off + x.length) y = overwrite b off (x ++ y) := by
  refine ext_byteAt (by simp) fun i hi => ?_
  simp only [length_overwrite] at hi
  simp only [byteAt_overwrite, byteAt_append, length_overwrite, List.length_append]
  by_cases hx : i < off + x.length
  · rw [if_neg (by omega)]
    by_cases hoff : off ≤ i
    · rw [if_pos (by omega), if_pos (by omega), if_pos (by omega)]
    · rw [if_neg (by omega), if_neg (by omega)]
  · rw [if_neg (show ¬ (off ≤ i ∧ i < off + x.length ∧ i < b.length) by omega)]
    by_cases hy : i < off + (x.length + y.length)
    · rw [if_pos (by omega), if_pos (by omega), if_neg (by omega), Nat.sub_add_eq]
    · rw [if_neg (by omega), if_neg (by omega)]

/-- What is behind the front of a string. -/
lemma Bytes.slice_append {x y : Bytes} {n : Nat} (hx : x.length = n) :
    slice (x ++ y) n (x ++ y).length = y := by
  rw [slice, ← hx, List.drop_left, List.length_append, Nat.add_sub_cancel_left, List.take_length]

lemma Bytes.overwrite_append_right {x y src : Bytes} {n : Nat} (hx : x.length = n)
    (hsrc : src.length = y.length) : overwrite (x ++ y) n src = x ++ src := by
  rw [← hx, ← Nat.add_zero x.length, overwrite_append, overwrite_zero (Nat.le_of_eq hsrc), hsrc,
    List.drop_length, List.append_nil]

namespace Guarded

open Dns

/-! ### Messages -/

/-- Words one behind the other, from a position on. -/
def storeWords (b : Bytes) (off : Nat) : List UInt16 → Guarded Bytes
  | [] => pure b
  | w :: ws => do storeWords (← store b off (off + 2) (ofWord16 w)) (off + 2) ws

def wordAt (b : Bytes) (i : Nat) : Guarded UInt16 := do
  return word16At (← slice b i (i + 2)) 0

def putDnsHeader (h : DnsHeader) (out : Bytes) : Guarded Bytes :=
  storeWords out 0 [h.id, h.flags, h.questions, h.answers, h.authorities, h.additionals]

def dnsHeader? (b : Bytes) : Guarded (Option DnsHeader) :=
  if b.length < headerLength then pure none
  else do
    let id ← wordAt b 0
    let flags ← wordAt b 2
    let questions ← wordAt b 4
    let answers ← wordAt b 6
    let authorities ← wordAt b 8
    let additionals ← wordAt b 10
    return some { id, flags, questions, answers, authorities, additionals }

/-! ### Names -/

/-- Writes labels from a position on, up to a bad one, and gives the position after them. -/
def writeLabels (out : Bytes) (off : Nat) :
    List Bytes → Guarded (Except NetError Nat × Bytes)
  | [] => pure (.ok off, out)
  | l :: ls =>
    if isLabel l then do
      let out ← setByte out off (← word8 l.length)
      let out ← copy out (off + 1) (off + 1 + l.length) l
      writeLabels out (off + 1 + l.length) ls
    else
      pure (.error .invalidName, out)

def encodeName (name : String) (out : Bytes) : Guarded (Except NetError Nat × Bytes) :=
  let needed := (nameBytes name).length + 2
  if out.length < needed then
    pure (.error (.payloadTooLarge needed out.length), out)
  else do
    match ← writeLabels out 0 (nameLabels name) with
    | (.error e, out) => return (.error e, out)
    | (.ok off, out) => return (.ok (off + 1), ← setByte out off 0)

def buildQuery (id : UInt16) (name : String) (out : Bytes) :
    Guarded (Except NetError Nat × Bytes) :=
  if out.length < headerLength + 4 then
    pure (.error (.payloadTooLarge (headerLength + 4) out.length), out)
  else do
    let out ← putDnsHeader (.query id) out
    let (length?, tail) ← encodeName name (← slice out headerLength out.length)
    let out ← copy out headerLength out.length tail
    match length? with
    | .error e => return (.error e, out)
    | .ok n =>
      let nameEnd := headerLength + n
      let stop := nameEnd + 4
      if out.length < stop then
        return (.error (.payloadTooLarge stop out.length), out)
      else
        return (.ok stop, ← storeWords out nameEnd [1, 1])

/-! ### The bytes of an address -/

def addressAt (f : Frame) (off : Nat) : Guarded Ipv4Addr := do
  let b ← part f off (off + 4)
  return ⟨← index b 0, ← index b 1, ← index b 2, ← index b 3⟩

/-! ### Writing -/

lemma storeWords_eq {b : Bytes} {off : Nat} {ws : List UInt16}
    (h : off + 2 * ws.length ≤ b.length) :
    storeWords b off ws = pure (overwrite b off (ws.flatMap ofWord16)) := by
  induction ws generalizing b off with
  | nil =>
    rw [storeWords, List.flatMap_nil, overwrite_nil]
  | cons w ws ih =>
    rw [List.length_cons] at h
    rw [storeWords, store_eq (Nat.le_refl (off + 2)) (by omega), pure_bind,
      ih (by rw [length_overwrite]; omega), List.flatMap_cons, ← overwrite_overwrite]
    rfl

lemma putDnsHeader_eq {h : DnsHeader} {out : Bytes} (hlen : headerLength ≤ out.length) :
    putDnsHeader h out = pure (overwrite out 0 (Wire.encode h)) :=
  storeWords_eq (show 0 + 2 * 6 ≤ out.length from hlen)

lemma wordAt_eq {b : Bytes} {i : Nat} (h : i + 2 ≤ b.length) :
    wordAt b i = pure (word16At b i) := by
  rw [wordAt, slice_eq (Nat.le_add_right i 2) h, pure_bind]
  simp only [word16At, byteAt_slice]
  rw [if_pos (by omega), if_pos (by omega)]
  rfl

lemma dnsHeader?_eq (b : Bytes) : dnsHeader? b = pure (Wire.parse? b) := by
  unfold dnsHeader?
  split
  next h => exact congrArg pure (if_neg (Nat.not_le.2 h)).symm
  next h =>
    replace h : 12 ≤ b.length := Nat.not_lt.1 h
    rw [wordAt_eq (by omega), pure_bind, wordAt_eq (by omega), pure_bind, wordAt_eq (by omega),
      pure_bind, wordAt_eq (by omega), pure_bind, wordAt_eq (by omega), pure_bind,
      wordAt_eq (by omega), pure_bind]
    exact congrArg pure (if_pos h).symm

/-- The position is right behind the labels that have been written. -/
lemma writeLabels_eq {out : Bytes} {off : Nat} {ls : List Bytes}
    (h : off + (ls.flatMap encodeLabel).length ≤ out.length) :
    writeLabels out off ls =
      let written := (ls.takeWhile isLabel).flatMap encodeLabel
      pure (if ls.all isLabel then .ok (off + written.length) else .error .invalidName,
        overwrite out off written) := by
  induction ls generalizing out off with
  | nil =>
    rw [writeLabels]
    simp
  | cons l ls ih =>
    rw [List.flatMap_cons, List.length_append, encodeLabel, List.length_cons] at h
    unfold writeLabels
    by_cases hl : isLabel l
    · have hlen : l.length ≤ 63 := by
        simp only [isLabel, Bool.and_eq_true, decide_eq_true_eq] at hl
        exact hl.2
      have hrest : off + 1 + l.length + (ls.flatMap encodeLabel).length ≤
          (overwrite (overwrite out off [.ofNat l.length]) (off + 1) l).length := by
        rw [length_overwrite, length_overwrite]
        omega
      rw [if_pos hl, word8_eq (by omega), pure_bind, setByte_eq (by omega), pure_bind,
        copy_eq rfl (by rw [length_overwrite]; omega), pure_bind, ih hrest]
      have hlabel : overwrite (overwrite out off [.ofNat l.length]) (off + 1) l =
          overwrite out off (encodeLabel l) :=
        overwrite_overwrite out off [.ofNat l.length] l
      have hoff : off + 1 + l.length = off + (encodeLabel l).length := by
        rw [encodeLabel, List.length_cons]
        omega
      dsimp only
      rw [hlabel, hoff, overwrite_overwrite, List.takeWhile_cons_of_pos hl, List.flatMap_cons,
        List.all_cons, hl, Bool.true_and, List.length_append, Nat.add_assoc]
    · rw [if_neg hl]
      simp [hl]

lemma encodeName_eq (name : String) (out : Bytes) :
    encodeName name out = pure (Dns.encodeName name out) := by
  unfold encodeName Dns.encodeName
  dsimp only
  split
  · rfl
  next hroom =>
    have hlen := length_encodedName name
    rw [encodedName, List.length_append, List.length_singleton] at hlen
    rw [writeLabels_eq (by omega), pure_bind]
    by_cases hall : (nameLabels name).all isLabel
    · have htake : (nameLabels name).takeWhile isLabel = nameLabels name :=
        List.takeWhile_eq_self_iff.2 (List.all_eq_true.1 hall)
      rw [if_pos hall, if_pos hall, htake]
      dsimp only
      rw [setByte_eq (by rw [length_overwrite]; omega), pure_bind, overwrite_overwrite,
        Nat.zero_add]
    · rw [if_neg hall, if_neg hall]

lemma length_encodeName (name : String) (out : Bytes) :
    (Dns.encodeName name out).2.length = out.length := by
  unfold Dns.encodeName
  dsimp only
  split
  · rfl
  · split <;> exact length_overwrite ..

lemma buildQuery_eq (id : UInt16) (name : String) (out : Bytes) :
    buildQuery id name out = pure (Dns.buildQuery id name out) := by
  unfold buildQuery Dns.buildQuery
  split
  · rfl
  next hroom =>
    replace hroom : 16 ≤ out.length := Nat.not_lt.1 hroom
    have hfront : (Wire.encode (DnsHeader.query id)).length ≤ out.length :=
      show 12 ≤ out.length by omega
    rw [putDnsHeader_eq hfront, pure_bind, overwrite_zero hfront]
    generalize hheader : Wire.encode (DnsHeader.query id) = header
    have h12 : header.length = headerLength := by rw [← hheader]; rfl
    have hlen (tail : Bytes) (h : tail.length = (out.drop headerLength).length) :
        (header ++ tail).length = out.length := by
      rw [List.length_append, h, List.length_drop, h12]
      exact Nat.add_sub_cancel' (show 12 ≤ out.length by omega)
    rw [h12, slice_eq (by rw [hlen _ rfl]; exact show 12 ≤ out.length by omega) (Nat.le_refl _),
      pure_bind, slice_append h12, encodeName_eq, pure_bind]
    have htail := length_encodeName name (out.drop headerLength)
    generalize Dns.encodeName name (out.drop headerLength) = written at htail ⊢
    obtain ⟨length?, tail⟩ := written
    dsimp only at htail ⊢
    have hfit : headerLength + tail.length = (header ++ out.drop headerLength).length := by
      rw [List.length_append, h12, htail]
    rw [copy_eq hfit (Nat.le_refl _), pure_bind, overwrite_append_right h12 htail]
    cases length? with
    | error e => rfl
    | ok n =>
      dsimp only
      rw [hlen tail htail]
      split
      · rfl
      next hstop =>
        rw [storeWords_eq (by rw [hlen tail htail]; exact Nat.not_lt.1 hstop), pure_bind]
        rfl

/-- The buffer keeps its size, and a query that has been written fits. -/
lemma length_buildQuery (id : UInt16) (name : String) (out : Bytes) :
    (Dns.buildQuery id name out).2.length = out.length ∧
      ∀ n, (Dns.buildQuery id name out).1 = .ok n → n ≤ out.length := by
  unfold Dns.buildQuery
  split
  · exact ⟨rfl, fun n h => by cases h⟩
  next hroom =>
    have htail := length_encodeName name (out.drop headerLength)
    have hlen : (Wire.encode (DnsHeader.query id)).length + (out.drop headerLength).length =
        out.length := by
      rw [List.length_drop]
      exact Nat.add_sub_cancel' (show 12 ≤ out.length from
        Nat.le_trans (show 12 ≤ 16 by decide) (Nat.not_lt.1 hroom))
    generalize Dns.encodeName name (out.drop headerLength) = written at htail ⊢
    obtain ⟨length?, tail⟩ := written
    dsimp only at htail ⊢
    cases length? with
    | error e => exact ⟨by rw [List.length_append, htail, hlen], fun n h => by cases h⟩
    | ok n =>
      dsimp only
      split
      · exact ⟨by rw [List.length_append, htail, hlen], fun n h => by cases h⟩
      next hstop =>
        refine ⟨by rw [length_overwrite, List.length_append, htail, hlen], fun m h => ?_⟩
        cases h
        exact Nat.not_lt.1 hstop

lemma addressAt_eq {f : Frame} {off : Nat} (h : off + 4 ≤ frameSize) :
    addressAt f off = pure (f.get Ipv4Addr off) := by
  have hlen : (f.slice off (off + 4)).length = 4 := by
    rw [Frame.length_slice, Nat.add_sub_cancel_left, Nat.min_eq_left (Nat.le_sub_of_add_le' h)]
  rw [addressAt, part_eq (Nat.le_add_right ..) h, pure_bind, index_eq (by omega), pure_bind,
    index_eq (by omega), pure_bind, index_eq (by omega), pure_bind, index_eq (by omega), pure_bind]
  exact congrArg pure (f.decode_slice (α := Ipv4Addr) (show 0 + 4 ≤ off + 4 - off by omega))

end Guarded

end PacketHost
