import PacketHost.Proofs.Budget
import PacketHost.Proofs.Inquiring

/-!
One question, call by call.

A question is a request that is sent and a wait for its answer. Either the device refuses to send
the request, and no other call is made, or every call after that is a receive call of the wait. An
operation that asks twice has its calls in two such pieces.
-/

namespace PacketHost

open Bytes

/-! ### The calls of a question -/

/-- These calls are a question with this result. -/
inductive Asks {α : Type} (request : Bytes) (accept? : Bytes → Option α) (budget : Nat) :
    List Device.Event → Except NetError (α × Nat) → Prop
  | refused (reason : String) :
      Asks request accept? budget [.send request (.error reason)] (.error (.device reason))
  | waited {outcomes : List (Except String Bytes)} {result : Except NetError (α × Nat)}
      (h : Ends accept? budget outcomes result) :
      Asks request accept? budget (.send request (.ok ()) :: outcomes.map .receive) result

section Count

open Device

lemma countP_isReceive_map (outcomes : List (Except String Bytes)) :
    (outcomes.map Event.receive).countP Event.isReceive = outcomes.length := by
  rw [List.countP_map, List.countP_eq_length]
  exact fun _ _ => rfl

lemma countP_isSend_map (outcomes : List (Except String Bytes)) :
    (outcomes.map Event.receive).countP Event.isSend = 0 := by
  rw [List.countP_map, List.countP_eq_zero]
  exact fun _ _ => Bool.false_ne_true

namespace Asks

variable {α : Type} {request : Bytes} {accept? : Bytes → Option α} {budget : Nat}
  {events : List Event} {result : Except NetError (α × Nat)}

lemma receives_le (h : Asks request accept? budget events result) :
    events.countP Event.isReceive ≤ budget := by
  cases h with
  | refused reason => exact Nat.zero_le _
  | waited h =>
    rw [List.countP_cons_of_neg Bool.false_ne_true, countP_isReceive_map]
    exact h.length_le

lemma sends_eq (h : Asks request accept? budget events result) :
    events.countP Event.isSend = 1 := by
  cases h with
  | refused reason => rfl
  | waited h => rw [List.countP_cons_of_pos rfl, countP_isSend_map]

/-- A question that is answered has been answered by the last frame received, and by no other. -/
lemma of_ok {a : α} {polls : Nat} (h : Asks request accept? budget events (.ok (a, polls))) :
    ∃ (passed : List Bytes) (b : Bytes),
      events = .send request (.ok ()) :: (passed ++ [b]).map (fun x => .receive (.ok x)) ∧
        (∀ x ∈ passed, x = [] ∨ accept? x = none) ∧ accept? b = some a ∧
          passed.length + 1 = polls ∧ polls ≤ budget := by
  cases h with
  | waited h =>
    cases h with
    | @accepted before b _ hbefore hlt _ ha =>
      obtain ⟨passed, rfl, hpassed⟩ := exists_map_ok hbefore
      rw [List.length_map] at hlt ⊢
      refine ⟨passed, b, ?_, hpassed, ha, rfl, hlt⟩
      rw [List.map_append, List.map_append, List.map_map]
      rfl

/-- What a question sends comes first. -/
lemma isReceive_of_mem_tail (h : Asks request accept? budget events result) :
    ∀ event ∈ events.tail, event.isReceive = true := by
  cases h with
  | refused => simp
  | waited => simp [Event.isReceive]

lemma eq_of_send_mem (h : Asks request accept? budget events result) {frame : Bytes}
    {outcome : Except String Unit} (hmem : .send frame outcome ∈ events) : frame = request := by
  cases h with
  | refused => simp_all
  | waited => simp_all

/-- Of two questions, the second begins where what only it can have sent is sent. -/
lemma of_append {before first later : List Event} {frame : Bytes} {outcome : Except String Unit}
    (h : Asks request accept? budget events result)
    (hsplit : first ++ events = before ++ .send frame outcome :: later)
    (hfirst : .send frame outcome ∉ first) : events = .send frame outcome :: later := by
  rcases List.append_eq_append_iff.1 hsplit with ⟨more, -, hevents⟩ | ⟨more, rfl, hlater⟩
  · rcases more with - | ⟨event, more⟩
    · exact hevents
    · have hreceive := h.isReceive_of_mem_tail (.send frame outcome) (by simp [hevents])
      cases hreceive
  · rcases more with - | ⟨event, more⟩
    · exact hlater.symm
    · cases hlater
      exact absurd (by simp) hfirst

/-- A frame that is accepted is the last one that is received. -/
lemma of_accepted {between later : List Event} {frame b : Bytes} {outcome : Except String Unit}
    {a : α}
    (h : Asks request accept? budget
      (.send frame outcome :: (between ++ .receive (.ok b) :: later)) result)
    (hb : b ≠ []) (ha : accept? b = some a) : later = [] ∧ ∃ polls, result = .ok (a, polls) := by
  generalize hevents : Event.send frame outcome :: (between ++ .receive (.ok b) :: later) = events
    at h
  cases h with
  | refused => simp at hevents
  | @waited outcomes result h =>
    obtain ⟨before, last, rfl, -, hlast⟩ := List.map_eq_append_iff.1 (List.cons.inj hevents).2.symm
    obtain ⟨x, rest, rfl, hx, rfl⟩ := List.map_eq_cons_iff.1 hlast
    cases hx
    obtain ⟨rfl, hresult⟩ := h.of_accepted hb ha
    exact ⟨rfl, hresult⟩

/-- Nothing has arrived on any of the calls. -/
lemma of_noReply {n : Nat} (h : Asks request accept? budget events (.error (.noReply n))) :
    n = budget ∧
      events = .send request (.ok ()) :: List.replicate budget (.receive (.ok [])) := by
  cases h with
  | waited h =>
    cases h with
    | silent => exact ⟨rfl, by rw [List.map_replicate]⟩

/-- On some call a frame has arrived, but on none the answer. -/
lemma of_timeout {n : Nat} (h : Asks request accept? budget events (.error (.timeout n))) :
    n = budget ∧ ∃ outcomes : List (Except String Bytes),
      events = .send request (.ok ()) :: outcomes.map .receive ∧
        outcomes.length = budget ∧ Arrived outcomes := by
  cases h with
  | @waited outcomes _ h =>
    cases h with
    | unmatched _ hlen harrived => exact ⟨rfl, outcomes, rfl, hlen, harrived⟩

end Asks

end Count

/-! ### Asking -/

namespace Host

variable {δ : Type} [Device δ] {h h' : Host δ}

/-- These calls have been made, and nothing else of the host has changed but its buffer and its log.
-/
structure Called (h h' : Host δ) (events : List Device.Event) : Prop where
  trace : Device.Trace h.device events h'.device
  moved : Moved h h' h'.device

lemma Called.note {events : List Device.Event} (hc : Called h h' events) (n : Note) :
    Called h (h'.note n) events := by
  obtain ⟨htrace, hmoved⟩ := hc
  refine ⟨htrace, ?_⟩
  unfold Moved at hmoved ⊢
  rw [hmoved]
  rfl

/-- One operation after the other. Between the two a counter may have been set. -/
lemma Called.append {h₁ h₂ : Host δ} {sequence transaction : UInt16}
    {first second : List Device.Event} (hfirst : Called h h₁ first)
    (hsecond : Called { h₁ with pingSequence := sequence, dnsTransaction := transaction } h₂
      second) :
    Called { h with pingSequence := sequence, dnsTransaction := transaction } h₂
      (first ++ second) := by
  obtain ⟨htrace, hmoved⟩ := hfirst
  obtain ⟨htrace', hmoved'⟩ := hsecond
  refine ⟨htrace.append htrace', ?_⟩
  unfold Moved at hmoved hmoved' ⊢
  rw [hmoved', hmoved]

lemma Waited.called {n : Nat} (hw : Waited h h' n) :
    Called h h' ((Device.outcomes n h.device).map .receive) := by
  refine ⟨?_, hw.rest⟩
  rw [hw.device]
  exact Device.trace_drained n h.device

/-- What the last call has given is in the buffer. -/
lemma Waited.holds {n : Nat} (hw : Waited h h' n) {before : List (Except String Bytes)} {b : Bytes}
    (hlast : Device.outcomes n h.device = before ++ [.ok b]) : h'.frame.Holds b := by
  have hmem : .ok b ∈ Device.outcomes n h.device := by
    rw [hlast]
    exact List.mem_append_right _ (List.mem_singleton_self _)
  rw [hw.frame, hlast, Frame.filled_append]
  exact Frame.holds_write _ (Device.length_le_of_mem_outcomes hmem)

/-- Whatever sends just this request, the wait after it makes a question of it, and the rest of the
operation goes on with the result. What has been received last is in the buffer. -/
lemma asks_of_send {α : Type} {t : Task δ Unit} {request : Bytes} {g : Frame} {log : List Note}
    (ht : t h = ((Device.send request h.device).1.mapError .device,
      { h with frame := g, device := (Device.send request h.device).2, log := log }))
    (budget : Nat) (accept? : Bytes → Option α) : ∃ events result h',
    Asks request accept? budget events result ∧ Called h h' events ∧
      (∀ before b, events = before ++ [.receive (.ok b)] → h'.frame.Holds b) ∧
      ∀ {β : Type} (rest : α × Nat → Task δ β),
        (t >>= fun _ => waitFor budget accept? >>= rest) h =
          match result with
          | .ok a => rest a h'
          | .error e => (.error e, h') := by
  rcases hsend : Device.send request h.device with ⟨reason | sent, d⟩
  · refine ⟨_, .error (.device reason), { h with frame := g, device := d, log := log },
      .refused reason, ?_, ?_, ?_⟩
    · refine ⟨?_, rfl⟩
      have htrace := Device.Trace.send (d := h.device) request (.nil _)
      rwa [hsend] at htrace
    · intro before b hlast
      simp [List.singleton_eq_append_iff] at hlast
    · intro β rest
      rw [Task.bind_apply, ht, hsend]
      rfl
  · -- the wait starts from what sending has left of the device
    obtain ⟨n, hends, hwaited⟩ :=
      { h with frame := g, device := d, log := log }.waitFor_ends budget accept?
    have hcalled := hwaited.called
    refine ⟨_, _, _, .waited hends, ⟨?_, hcalled.moved⟩, ?_, ?_⟩
    · have htrace := Device.Trace.send (d := h.device) request (by rw [hsend]; exact hcalled.trace)
      rwa [hsend] at htrace
    · intro before b hlast
      rcases before with - | ⟨event, before⟩
      · cases hlast
      · obtain ⟨first, last, hsplit, -, hone⟩ :=
          List.map_eq_append_iff.1 (List.cons.inj hlast).2
        obtain ⟨outcome, rfl, hreceive⟩ := List.map_eq_singleton_iff.1 hone
        cases hreceive
        exact hwaited.holds hsplit
    · intro β rest
      rw [Task.bind_apply, ht, hsend]
      dsimp only [Except.mapError]
      rw [Task.bind_apply]
      rcases waitFor budget accept? { h with frame := g, device := d, log := log } with
        ⟨_ | _, _⟩ <;> rfl

/-- The question for a hardware address, whatever comes of it. -/
lemma resolve_asks (h : Host δ) (ip : Ipv4Addr) (budget : Nat) : ∃ events result,
    Asks (arpRequest h.settings ip) (arpAnswer? ip) budget events result ∧
      (resolve ip budget h).1 = result.map Prod.fst ∧
        Called h (resolve ip budget h).2 events := by
  have hsent := transmit_eq (h := { h with frame := h.frame.stageArpRequest h.settings ip })
    (h.frame.slice_stageArpRequest h.settings ip)
  unfold resolve
  simp only [Task.bind_apply h, Task.modify_apply]
  obtain ⟨events, result, h', hasks, hcalled, -, hrun⟩ :=
    asks_of_send hsent budget (arpAnswer? ip)
  refine ⟨events, result, hasks, ?_⟩
  rw [hrun]
  rcases result with e | ⟨hw, polls⟩
  · exact ⟨rfl, hcalled.trace, hcalled.moved⟩
  · have hnoted := hcalled.note (.resolved ip hw polls)
    exact ⟨rfl, hnoted.trace, hnoted.moved⟩

end Host

end PacketHost
