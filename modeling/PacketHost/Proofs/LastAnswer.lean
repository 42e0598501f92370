import PacketHost.Proofs.InKind

/-!
What a sequence of actions makes of an exchange.

The capacity stays what it is, so whether an action is carried out is a matter of the length of its
answer alone (`Action.outcome`). An answer that does not fit is refused and leaves no trace. Of the
others each one writes to the part of the region in front of the last byte (`Action.writeTo`), and
the last answer among them is the one that counts. The last byte itself is out of reach: there an
answer of the greatest odd length is padded, inside the region.
-/

namespace PacketHost

open Bytes Received

namespace Action

/-- How long an answer the action gives, if it gives one. -/
def answerLength? : Action → Option Nat
  | .reply data => some data.length
  | .replyInPlace length => some length
  | .write _ _ => none
  | .edit _ => none

/-- What comes of an action where there is room for an answer of `capacity` bytes. -/
def outcome (capacity : Nat) (a : Action) : Except NetError Unit :=
  match a.answerLength? with
  | none => .ok ()
  | some n => if capacity < n then .error (.payloadTooLarge n capacity) else .ok ()

/-- The part of a region that can be written to, after an action. It starts with a request of
`length` bytes, or with as many of them as there is room for. -/
def writeTo (length : Nat) (payload : Bytes) : Action → Bytes
  | .reply data => overwrite payload 0 data
  | .replyInPlace _ => payload
  | .write off data => overwrite payload off data
  | .edit change =>
    let part := payload.take length
    overwrite payload 0 ((change part).take part.length)

variable {capacity : Nat} {a : Action}

lemma outcome_eq_error_iff {e : NetError} :
    a.outcome capacity = .error e ↔
      ∃ n ∈ a.answerLength?, capacity < n ∧ e = .payloadTooLarge n capacity := by
  unfold outcome
  cases a.answerLength? with
  | none => simp
  | some n =>
    by_cases hn : capacity < n
    · simp [hn, eq_comm]
    · simp [hn]

lemma le_of_isOk_outcome (h : (a.outcome capacity).isOk) {n : Nat} (hn : n ∈ a.answerLength?) :
    n ≤ capacity := by
  refine Nat.not_lt.1 fun hlt => ?_
  rw [outcome_eq_error_iff.2 ⟨n, hn, hlt, rfl⟩] at h
  cases h

end Action

/-- The actions that are carried out where there is room for an answer of `capacity` bytes. -/
def carriedOut (capacity : Nat) (as : List Action) : List Action :=
  as.filter fun a => (a.outcome capacity).isOk

section CarriedOut

variable {capacity : Nat} {a : Action} (as : List Action)

lemma carriedOut_cons_of_error {e : NetError} (h : a.outcome capacity = .error e) :
    carriedOut capacity (a :: as) = carriedOut capacity as := by
  refine List.filter_cons_of_neg fun hok => ?_
  rw [h] at hok
  cases hok

lemma carriedOut_cons_of_isOk (h : (a.outcome capacity).isOk) :
    carriedOut capacity (a :: as) = a :: carriedOut capacity as :=
  List.filter_cons_of_pos h

end CarriedOut

namespace Exchange

/-- The part of the region that can be written to. -/
def payload (x : Exchange) : Bytes := x.region.take x.capacity

variable (x : Exchange) (a : Action)

/-! ### One action -/

lemma length_payload : x.payload.length = x.capacity := by
  rw [payload, List.length_take]
  exact Nat.min_eq_left (Nat.sub_le _ _)

lemma payload_write (off : Nat) (data : Bytes) :
    (x.write off data).payload = overwrite x.payload off data := by
  rw [payload, capacity_write]
  exact List.take_left' ((length_overwrite _ _ _).trans x.length_payload)

/-- The last byte is behind everything that can be written to. -/
lemma getLast?_write (off : Nat) (data : Bytes) :
    (x.write off data).region.getLast? = x.region.getLast? := by
  have hfront : (overwrite x.payload off data).length = x.capacity := by
    rw [length_overwrite, x.length_payload]
  rw [List.getLast?_eq_getElem?, List.getLast?_eq_getElem?, length_region_write]
  calc (overwrite x.payload off data ++ x.region.drop x.capacity)[x.capacity]?
      = (x.region.drop x.capacity)[x.capacity - x.capacity]? := by
        rw [List.getElem?_append_right (Nat.le_of_eq hfront), hfront]
    _ = x.region[x.capacity]? := by rw [List.getElem?_drop, Nat.add_sub_cancel' (Nat.le_refl _)]

lemma fst_setReply (n : Nat) (y : Exchange) :
    (x.setReply n y).1 =
      if x.capacity < n then .error (.payloadTooLarge n x.capacity) else .ok () := by
  unfold setReply
  split <;> rfl

lemma fst_perform : (x.perform a).1 = a.outcome x.capacity := by
  cases a with
  | reply data => exact x.fst_setReply _ _
  | replyInPlace length => exact x.fst_setReply _ _
  | write off data => rfl
  | edit change => rfl

/-- An answer that does not fit is as if it had not been given. -/
lemma perform_of_refused {e : NetError} (h : a.outcome x.capacity = .error e) :
    (x.perform a).2 = x := by
  obtain ⟨n, hn, hlt, -⟩ := Action.outcome_eq_error_iff.1 h
  have hrefused (y : Exchange) : (x.setReply n y).2 = x := by rw [setReply, if_pos hlt]
  cases a with
  | reply data => cases hn; exact hrefused _
  | replyInPlace length => cases hn; exact hrefused _
  | write off data => cases hn
  | edit change => cases hn

/-- What an action that is carried out makes of the answer and of the payload. -/
lemma perform_of_isOk (h : (a.outcome x.capacity).isOk) :
    (x.perform a).2.reply = a.answerLength?.or x.reply ∧
      (x.perform a).2.payload = a.writeTo x.length x.payload := by
  have hfits {n : Nat} (hn : n ∈ a.answerLength?) (y : Exchange) :
      (x.setReply n y).2 = { y with reply := some n } := by
    rw [setReply, if_neg (Nat.not_lt.2 (Action.le_of_isOk_outcome h hn))]
  cases a with
  | reply data =>
    rw [perform, hfits rfl]
    exact ⟨rfl, x.payload_write 0 data⟩
  | replyInPlace length =>
    rw [perform, hfits rfl]
    exact ⟨rfl, rfl⟩
  | write off data => exact ⟨rfl, x.payload_write off data⟩
  | edit change =>
    have hpart : x.region.take (min x.length x.capacity) = x.payload.take x.length := by
      rw [payload, List.take_take]
    refine ⟨rfl, ?_⟩
    rw [perform, hpart]
    exact x.payload_write 0 _

lemma getLast?_perform : (x.perform a).2.region.getLast? = x.region.getLast? := by
  have hset (n : Nat) {y : Exchange} (hy : y.region.getLast? = x.region.getLast?) :
      (x.setReply n y).2.region.getLast? = x.region.getLast? := by
    unfold setReply
    split
    · rfl
    · exact hy
  cases a with
  | reply data => exact hset _ (x.getLast?_write 0 data)
  | replyInPlace length => exact hset _ rfl
  | write off data => exact x.getLast?_write off data
  | edit change => exact x.getLast?_write 0 _

/-! ### A sequence of actions -/

lemma fst_performAll (as : List Action) :
    (x.performAll as).1 = as.map (·.outcome x.capacity) := by
  induction as generalizing x with
  | nil => rfl
  | cons a as ih =>
    rw [performAll, ih, fst_perform, capacity_perform]
    rfl

lemma getLast?_performAll (as : List Action) :
    (x.performAll as).2.region.getLast? = x.region.getLast? := by
  induction as generalizing x with
  | nil => rfl
  | cons a as ih => exact (ih _).trans (x.getLast?_perform a)

/-- The last answer that is carried out is the answer, and if there is none, it is as before. -/
lemma reply_performAll (as : List Action) :
    (x.performAll as).2.reply =
      ((carriedOut x.capacity as).filterMap Action.answerLength?).getLast?.or x.reply := by
  induction as generalizing x with
  | nil => rfl
  | cons a as ih =>
    have hrest := ih (x.perform a).2
    rw [capacity_perform] at hrest
    refine hrest.trans ?_
    cases hout : a.outcome x.capacity with
    | error e => rw [x.perform_of_refused a hout, carriedOut_cons_of_error as hout]
    | ok =>
      have hok : (a.outcome x.capacity).isOk := by rw [hout]; rfl
      rw [(x.perform_of_isOk a hok).1, carriedOut_cons_of_isOk as hok, List.filterMap_cons]
      cases a.answerLength? with
      | none => rw [Option.none_or]
      | some n => rw [← Option.or_assoc, List.getLast?_cons, Option.or_some]

lemma payload_performAll (as : List Action) :
    (x.performAll as).2.payload =
      (carriedOut x.capacity as).foldl (fun b a => a.writeTo x.length b) x.payload := by
  induction as generalizing x with
  | nil => rfl
  | cons a as ih =>
    have hrest := ih (x.perform a).2
    rw [capacity_perform, (x.follows_perform a).length] at hrest
    refine hrest.trans ?_
    cases hout : a.outcome x.capacity with
    | error e => rw [x.perform_of_refused a hout, carriedOut_cons_of_error as hout]
    | ok =>
      have hok : (a.outcome x.capacity).isOk := by rw [hout]; rfl
      rw [(x.perform_of_isOk a hok).2, carriedOut_cons_of_isOk as hok, List.foldl_cons]

/-- An action that has been refused might as well not have been there. -/
lemma performAll_of_refused {before after : List Action} {a : Action} {e : NetError}
    (h : (x.performAll (before ++ a :: after)).1[before.length]? = some (.error e)) :
    a.outcome x.capacity = .error e ∧
      (x.performAll (before ++ [a])).2 = (x.performAll before).2 := by
  have hout : a.outcome x.capacity = .error e := by
    rw [fst_performAll, List.getElem?_map, List.getElem?_append_right (Nat.le_refl _),
      Nat.sub_self] at h
    exact Option.some.inj h
  refine ⟨hout, ?_⟩
  rw [performAll_append]
  exact perform_of_refused _ a (by rw [capacity_performAll, hout])

/-- What actions over a region have come to, each by itself and all together. -/
structure Settles (region : Bytes) (length : Nat) (as : List Action)
    (outcomes : List (Except NetError Unit)) (y : Exchange) : Prop where
  size_eq : y.region.length = region.length
  capacity_eq : y.capacity = region.length - 1
  length_eq : y.length = min length region.length
  outcomes_eq : outcomes = as.map (·.outcome (region.length - 1))
  reply_eq :
    y.reply = ((carriedOut (region.length - 1) as).filterMap Action.answerLength?).getLast?
  reply_le : ∀ n ∈ y.reply, n ≤ region.length - 1
  payload_eq : y.payload =
    (carriedOut (region.length - 1) as).foldl
      (fun b a => a.writeTo (min length region.length) b) (region.take (region.length - 1))
  last_eq : y.region.getLast? = region.getLast?
  pad_lt : ∀ n ∈ y.reply, n % 2 = 1 → n < region.length

lemma settles_start (region : Bytes) (length : Nat) (remoteIp : Ipv4Addr)
    (remotePort localPort : UInt16) (as : List Action) :
    Settles region length as
      ((start region length remoteIp remotePort localPort).performAll as).1
      ((start region length remoteIp remotePort localPort).performAll as).2 := by
  have hfollows := (start region length remoteIp remotePort localPort).follows_performAll as
  have hcapacity : ((start region length remoteIp remotePort localPort).performAll as).2.capacity =
      region.length - 1 :=
    capacity_performAll _ as
  have hle : ∀ n ∈ ((start region length remoteIp remotePort localPort).performAll as).2.reply,
      n ≤ region.length - 1 := by
    intro n hn
    rw [← hcapacity]
    exact hfollows.reply (by simp [start]) n hn
  exact {
    size_eq := hfollows.size
    capacity_eq := hcapacity
    length_eq := hfollows.length
    outcomes_eq := fst_performAll _ as
    reply_eq := by rw [reply_performAll]; exact Option.or_none
    reply_le := hle
    payload_eq := payload_performAll _ as
    last_eq := getLast?_performAll _ as
    pad_lt n hn hodd := by
      have := hle n hn
      omega }

end Exchange

/-! ### The byte of padding -/

/-- After a turn that ended in `y`, an answer of `n` bytes goes out, with a byte of padding that
stands in the region of the turn. -/
structure Call.PadsInside (c : Call) (y : Exchange) (n : Nat) (out : Option Bytes) : Prop where
  lt_region : n < y.region.length
  lt_frame : c.start + n < maxFrameLength
  sent : ∃ reply, out = some reply ∧ reply.length = c.start + n + 1 ∧
    reply.drop c.start = y.region.take n ++ [0]

lemma Frame.padsInside {s : Settings} {r : Registry} {turn : Nat} {b : Bytes} {f : Frame}
    {c : Call} {n : Nat} (hf : f.Holds b) (hc : Calls s r b c)
    (hreply : ((f.offered b c).after turn c.handler).reply = some n) (hodd : n % 2 = 1) :
    c.PadsInside ((f.offered b c).after turn c.handler) n
      (f.react s r turn b.length).outgoing? := by
  have hlt : c.start + n < maxFrameLength := reply_turned_lt _ c turn hreply hc.start_lt
  have hsize : ((f.offered b c).after turn c.handler).region.length = maxFrameLength - c.start :=
    length_region_turned _ c turn
  have hregion : n < ((f.offered b c).after turn c.handler).region.length := by omega
  generalize hy : (f.offered b c).after turn c.handler = y at hreply hregion
  have hlength : (y.region.take n).length = n := List.length_take_of_le (Nat.le_of_lt hregion)
  have hanswer : ((f.offered b c).after turn c.handler).answer? = some (y.region.take n) := by
    rw [hy, Exchange.answer?, hreply, Option.map_some]
  obtain ⟨reply, hout, hdata⟩ := exists_outgoing_of_answer hf hc hanswer
  have hpadded : padded (y.region.take n) = y.region.take n ++ [0] := by
    rw [padded, hlength, if_neg (by omega)]
  rw [hpadded] at hdata
  refine ⟨hregion, hlt, reply, hout, ?_, hdata⟩
  have hdrop := congrArg List.length hdata
  rw [List.length_drop, List.length_append, hlength, List.length_singleton] at hdrop
  omega

/-- **The last answer that fits is the answer, and there is room to pad it.** Whatever is done with
an exchange, in whatever order, over a region of whatever size: what fits is carried out in its
order, what does not fit is refused with its length and the capacity and changes nothing, and the
last byte of the region stays as it was. So an answer of odd length is padded inside the region,
behind a datagram's header as behind a segment's. -/
theorem actions_keep_room :
    (∀ (region : Bytes) (length : Nat) (remoteIp : Ipv4Addr) (remotePort localPort : UInt16)
      (as : List Action),
      let x := Exchange.start region length remoteIp remotePort localPort
      Exchange.Settles region length as (x.performAll as).1 (x.performAll as).2 ∧
        ∀ before a after e, as = before ++ a :: after →
          (x.performAll as).1[before.length]? = some (.error e) →
            (∃ n ∈ a.answerLength?,
              region.length - 1 < n ∧ e = .payloadTooLarge n (region.length - 1)) ∧
            (x.performAll (before ++ [a])).2 = (x.performAll before).2) ∧
    ∀ {s : Settings} {r : Registry} {turn : Nat} {b : Bytes} {f : Frame} {c : Call} {n : Nat},
      f.Holds b → Calls s r b c →
        ((f.offered b c).after turn c.handler).reply = some n → n % 2 = 1 →
          c.PadsInside ((f.offered b c).after turn c.handler) n
            (f.react s r turn b.length).outgoing? := by
  refine ⟨fun region length remoteIp remotePort localPort as => ⟨?_, ?_⟩, Frame.padsInside⟩
  · exact Exchange.settles_start region length remoteIp remotePort localPort as
  · rintro before a after e rfl herror
    obtain ⟨hout, hsame⟩ := Exchange.performAll_of_refused _ herror
    exact ⟨Action.outcome_eq_error_iff.1 hout, hsame⟩

/-- Two bytes of three can be written to. One byte is answered where it stands, and what comes after
it is too long; three bytes that are echoed in a frame go out with a byte behind them. -/
theorem actions_keep_room_oddDatagram :
    let x := Exchange.start [1, 2, 3] 2 ⟨10, 0, 0, 2⟩ 4000 7
    let as : List Action := [.write 1 [8, 9], .replyInPlace 1, .reply [4, 5, 6]]
    let f := Frame.blank.write 0 oddDatagram
    let h := Host.echoing []
    let c := datagramCall oddDatagram .echo
    (x.performAll as).1[2]? = some (.error (.payloadTooLarge 3 2)) ∧
      (x.performAll as).2 = (x.performAll (as.take 2)).2 ∧
      (x.performAll as).2.reply = some 1 ∧ (x.performAll as).2.payload = [1, 8] ∧
      f.Holds oddDatagram ∧ Calls h.settings h.handlers oddDatagram c ∧
      ((f.offered oddDatagram c).after 0 .echo).reply = some 3 ∧
      ∃ reply,
        (f.react h.settings h.handlers 0 oddDatagram.length).outgoing? = some reply ∧
          reply.length = 46 ∧ reply.drop 42 = [0x6f, 0x64, 0x64, 0] := by
  intro x as f h c
  have hholds : f.Holds oddDatagram := Frame.holds_write _ (by decide)
  have hcalls : Calls h.settings h.handlers oddDatagram c := .datagram (by decide) rfl
  have hreply : ((f.offered oddDatagram c).after 0 .echo).reply = some 3 := by decide +kernel
  have hrefused : (x.performAll as).1[2]? = some (.error (.payloadTooLarge 3 2)) := rfl
  obtain ⟨hkeeps, hpads⟩ := actions_keep_room
  obtain ⟨hsettles, hfailed⟩ := hkeeps [1, 2, 3] 2 ⟨10, 0, 0, 2⟩ 4000 7 as
  obtain ⟨-, hsame⟩ := hfailed (as.take 2) (.reply [4, 5, 6]) [] _ rfl hrefused
  obtain ⟨-, -, reply, hout, hlength, hdata⟩ := hpads hholds hcalls hreply (by decide)
  refine ⟨hrefused, hsame, hsettles.reply_eq, hsettles.payload_eq, hholds, hcalls, hreply, reply,
    hout, hlength, hdata.trans ?_⟩
  decide +kernel

end PacketHost
