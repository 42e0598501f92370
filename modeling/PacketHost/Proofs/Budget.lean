import PacketHost.Proofs.Calls
import PacketHost.Proofs.Waiting

/-!
How a wait ends, and after how many calls.

A wait calls the device to receive and for nothing else, so all that can be said of it is said of
the outcomes of its calls, in order. The first of them that is an error or an accepted frame is the
last (`Ends`). Where no such outcome comes within the budget, the budget is used up, and it is told
apart whether anything has arrived at all.
-/

namespace PacketHost

open Bytes

/-! ### The end of a wait -/

section Ends

variable {α : Type} (accept? : Bytes → Option α) (budget : Nat)

/-- After this outcome of a call a wait goes on: nothing has come, or a frame that is not accepted.
-/
def Passes (outcome : Except String Bytes) : Prop :=
  ∃ b, outcome = .ok b ∧ (b = [] ∨ accept? b = none)

/-- Some call has given a frame. -/
def Arrived (outcomes : List (Except String Bytes)) : Prop := ∃ b ≠ [], .ok b ∈ outcomes

/-- The calls of a wait that gave these outcomes have ended it with this result. -/
inductive Ends : List (Except String Bytes) → Except NetError (α × Nat) → Prop
  | accepted {before : List (Except String Bytes)} {b : Bytes} {a : α}
      (hbefore : ∀ x ∈ before, Passes accept? x) (hlt : before.length < budget) (hb : b ≠ [])
      (ha : accept? b = some a) : Ends (before ++ [.ok b]) (.ok (a, before.length + 1))
  | failed {before : List (Except String Bytes)} {reason : String}
      (hbefore : ∀ x ∈ before, Passes accept? x) (hlt : before.length < budget) :
      Ends (before ++ [.error reason]) (.error (.device reason))
  | silent : Ends (List.replicate budget (.ok [])) (.error (.noReply budget))
  | unmatched {all : List (Except String Bytes)} (hall : ∀ x ∈ all, Passes accept? x)
      (hlen : all.length = budget) (harrived : Arrived all) :
      Ends all (.error (.timeout budget))

variable {accept?} {budget}

lemma not_arrived_nil : ¬ Arrived [] := fun ⟨_, _, hb⟩ => List.not_mem_nil hb

lemma arrived_snoc {all : List (Except String Bytes)} {b : Bytes} :
    Arrived (all ++ [.ok b]) ↔ Arrived all ∨ b ≠ [] := by
  constructor
  · rintro ⟨c, hc, hmem⟩
    rcases List.mem_append.1 hmem with hmem | hmem
    · exact .inl ⟨c, hc, hmem⟩
    · rw [← Except.ok.inj (List.mem_singleton.1 hmem)]
      exact .inr hc
  · rintro (⟨c, hc, hmem⟩ | hb)
    · exact ⟨c, hc, List.mem_append_left _ hmem⟩
    · exact ⟨b, hb, List.mem_append_right _ (List.mem_singleton_self _)⟩

/-- What passes is no error. -/
lemma exists_map_ok {outcomes : List (Except String Bytes)}
    (h : ∀ x ∈ outcomes, Passes accept? x) : ∃ passed : List Bytes,
      outcomes = passed.map .ok ∧ ∀ x ∈ passed, x = [] ∨ accept? x = none := by
  induction outcomes with
  | nil => exact ⟨[], rfl, nofun⟩
  | cons x outcomes ih =>
    obtain ⟨⟨b, rfl, hb⟩, hrest⟩ := List.forall_mem_cons.1 h
    obtain ⟨passed, rfl, hpassed⟩ := ih hrest
    exact ⟨b :: passed, rfl, List.forall_mem_cons.2 ⟨hb, hpassed⟩⟩

/-- If every call has passed, the budget is used up, and how that is reported depends on whether a
frame has arrived. -/
lemma ends_of_passes {all : List (Except String Bytes)} (hall : ∀ x ∈ all, Passes accept? x)
    (hlen : all.length = budget) {seen : Bool} (hseen : seen = true ↔ Arrived all) :
    Ends accept? budget all (.error (if seen then .timeout budget else .noReply budget)) := by
  cases seen with
  | true => exact .unmatched hall hlen (hseen.1 rfl)
  | false =>
    have hempty : all = List.replicate budget (.ok []) := by
      refine List.eq_replicate_iff.2 ⟨hlen, fun x hx => ?_⟩
      obtain ⟨b, rfl, -⟩ := hall x hx
      cases b with
      | nil => rfl
      | cons y b => exact absurd (hseen.2 ⟨y :: b, List.cons_ne_nil y b, hx⟩) (by decide)
    rw [hempty]
    exact .silent

/-- A wait makes no more calls than its budget allows. -/
lemma Ends.length_le {all : List (Except String Bytes)} {result : Except NetError (α × Nat)}
    (h : Ends accept? budget all result) : all.length ≤ budget := by
  cases h with
  | accepted _ hlt =>
    rw [List.length_append, List.length_singleton]
    exact hlt
  | failed _ hlt =>
    rw [List.length_append, List.length_singleton]
    exact hlt
  | silent => exact Nat.le_of_eq List.length_replicate
  | unmatched _ hlen => exact Nat.le_of_eq hlen

/-- A wait has gone on after all outcomes but the last. -/
lemma Ends.passes_dropLast {all : List (Except String Bytes)} {result : Except NetError (α × Nat)}
    (h : Ends accept? budget all result) : ∀ x ∈ all.dropLast, Passes accept? x := by
  cases h with
  | accepted hbefore => simpa using hbefore
  | failed hbefore => simpa using hbefore
  | silent =>
    intro x hx
    exact ⟨[], List.eq_of_mem_replicate ((List.dropLast_sublist _).mem hx), .inl rfl⟩
  | unmatched hall =>
    intro x hx
    exact hall x ((List.dropLast_sublist _).mem hx)

/-- It is over as soon as a frame is accepted. -/
lemma Ends.of_accepted {before later : List (Except String Bytes)} {b : Bytes} {a : α}
    {result : Except NetError (α × Nat)}
    (h : Ends accept? budget (before ++ .ok b :: later) result) (hb : b ≠ [])
    (ha : accept? b = some a) : later = [] ∧ ∃ polls, result = .ok (a, polls) := by
  have hnot : ¬ Passes accept? (.ok b) := by
    rintro ⟨c, hc, hpasses⟩
    cases hc
    simp [hb, ha] at hpasses
  rcases later with - | ⟨x, more⟩
  case cons =>
    refine absurd (h.passes_dropLast _ ?_) hnot
    rw [List.dropLast_append_of_ne_nil (List.cons_ne_nil _ _),
      List.dropLast_cons_of_ne_nil (List.cons_ne_nil _ _)]
    exact List.mem_append_right _ List.mem_cons_self
  refine ⟨rfl, ?_⟩
  generalize hall : before ++ [.ok b] = all at h
  have hmem : .ok b ∈ all := hall ▸ List.mem_append_right _ List.mem_cons_self
  cases h with
  | accepted _ _ _ ha' =>
    obtain ⟨-, hlast⟩ := List.append_inj' hall rfl
    cases hlast
    rw [ha] at ha'
    cases ha'
    exact ⟨_, rfl⟩
  | failed =>
    obtain ⟨-, hlast⟩ := List.append_inj' hall rfl
    cases hlast
  | silent => exact absurd (Except.ok.inj (List.eq_of_mem_replicate hmem)) hb
  | unmatched hpasses => exact absurd (hpasses _ hmem) hnot

end Ends

/-! ### What a wait does to the host -/

/-- The frame buffer after calls with these outcomes: what has been received has been written to its
front, one frame over the other. -/
def Frame.filled (f : Frame) : List (Except String Bytes) → Frame
  | [] => f
  | .ok b :: rest => (f.write 0 b).filled rest
  | .error _ :: rest => f.filled rest

lemma Frame.filled_append (f : Frame) (first second : List (Except String Bytes)) :
    f.filled (first ++ second) = (f.filled first).filled second := by
  induction first generalizing f with
  | nil => rfl
  | cons outcome first ih => cases outcome <;> exact ih _

namespace Host

variable {δ : Type} [Device δ] {α : Type} {accept? : Bytes → Option α} {budget : Nat}

/-- The host has made that many receive calls, and has done nothing else but to write its log. -/
structure Waited (h h' : Host δ) (n : Nat) : Prop where
  device : h'.device = Device.drained n h.device
  frame : h'.frame = h.frame.filled (Device.outcomes n h.device)
  rest : h' = { h with device := h'.device, frame := h'.frame, log := h'.log }

lemma receive_of_error (h : Host δ) {reason : String} {d : δ}
    (hr : Device.receive frameSize h.device = (.error reason, d)) :
    h.receive = (.error reason, { h with device := d }) := by
  rw [receive, hr]

namespace Waited

variable {h h' : Host δ} {n : Nat}

lemma zero (h : Host δ) : Waited h h 0 := ⟨rfl, rfl, rfl⟩

/-- The call in front of all others has failed. -/
lemma of_error {reason : String} {d : δ}
    (hr : Device.receive frameSize h.device = (.error reason, d)) :
    Waited h { h with device := d } 1 := by
  refine ⟨?_, ?_, rfl⟩
  · rw [Device.drained, hr, Device.drained]
  · rw [Device.outcomes, hr]
    rfl

/-- The call in front of all others has given a frame, or nothing. -/
lemma succ {b : Bytes} {d : δ} {log : List Note}
    (hr : Device.receive frameSize h.device = (.ok b, d))
    (hw : Waited { h with device := d, frame := h.frame.write 0 b, log := log } h' n) :
    Waited h h' (n + 1) := by
  obtain ⟨hdevice, hframe, hrest⟩ := hw
  refine ⟨?_, ?_, hrest⟩
  · rw [hdevice, Device.drained, hr]
  · rw [hframe, Device.outcomes, hr, Frame.filled]

end Waited

/-! ### One poll, and all of them -/

section Poll

variable {h : Host δ} {left : Nat} {seen : Bool} {d : δ}

lemma waitLoop_of_error {reason : String}
    (hr : Device.receive frameSize h.device = (.error reason, d)) :
    waitLoop accept? budget (left + 1) seen h =
      (.error (.device reason), { h with device := d }) := by
  rw [waitLoop, h.receive_of_error hr]

lemma waitLoop_of_accepted {b : Bytes} {a : α}
    (hr : Device.receive frameSize h.device = (.ok b, d)) (hb : b ≠ []) (ha : accept? b = some a) :
    waitLoop accept? budget (left + 1) seen h =
      (.ok (a, budget - left), { h with device := d }.holding b) := by
  have hcall := h.receive_of_ok b (by rw [hr])
  rw [hr] at hcall
  obtain ⟨x, rest, rfl⟩ := List.exists_cons_of_ne_nil hb
  rw [waitLoop, hcall]
  dsimp only
  rw [ha]

/-- A poll that finds nothing counts, and a frame that is not accepted is dropped. -/
lemma waitLoop_of_passes (budget left : Nat) (seen : Bool) {b : Bytes}
    (hr : Device.receive frameSize h.device = (.ok b, d)) (hb : b = [] ∨ accept? b = none) :
    ∃ log : List Note,
    waitLoop accept? budget (left + 1) seen h =
      waitLoop accept? budget left (seen || !b.isEmpty)
        { h with device := d, frame := h.frame.write 0 b, log := log } := by
  have hcall := h.receive_of_ok b (by rw [hr])
  rw [hr] at hcall
  rw [waitLoop, hcall]
  cases b with
  | nil =>
    rw [List.isEmpty_nil, Bool.not_true, Bool.or_false]
    exact ⟨_, rfl⟩
  | cons x rest =>
    have ha : accept? (x :: rest) = none := hb.resolve_left (List.cons_ne_nil x rest)
    dsimp only
    rw [ha, List.isEmpty_cons, Bool.not_false, Bool.or_true]
    exact ⟨_, rfl⟩

end Poll

/-- The loop carries the calls made so far: all of them have passed, and it is known whether a frame
has arrived. -/
lemma waitLoop_ends (h : Host δ) {left : Nat} (seen : Bool) (before : List (Except String Bytes))
    (hbefore : ∀ x ∈ before, Passes accept? x) (hlen : before.length + left = budget)
    (hseen : seen = true ↔ Arrived before) : ∃ n,
    Ends accept? budget (before ++ Device.outcomes n h.device)
        (waitLoop accept? budget left seen h).1 ∧
      Waited h (waitLoop accept? budget left seen h).2 n := by
  -- `before` and the polls to go always make up the budget
  induction left generalizing h seen before with
  | zero =>
    refine ⟨0, ?_, .zero h⟩
    rw [Device.outcomes, List.append_nil]
    exact ends_of_passes hbefore hlen hseen
  | succ left ih =>
    have hlt : before.length < budget := by omega
    have hone {x : Except String Bytes} (hx : (Device.receive frameSize h.device).1 = x) :
        before ++ Device.outcomes 1 h.device = before ++ [x] := by
      rw [Device.outcomes, hx, Device.outcomes]
    rcases hr : Device.receive frameSize h.device with ⟨reason | b, d⟩
    · rw [waitLoop_of_error hr]
      refine ⟨1, ?_, .of_error hr⟩
      rw [hone (by rw [hr])]
      exact .failed hbefore hlt
    by_cases hb : b = [] ∨ accept? b = none
    · obtain ⟨log, hloop⟩ := waitLoop_of_passes budget left seen hr hb
      obtain ⟨n, hends, hwaited⟩ := ih
        { h with device := d, frame := h.frame.write 0 b, log := log } (seen || !b.isEmpty)
        (before ++ [.ok b]) (by simpa [or_imp, forall_and] using ⟨hbefore, b, rfl, hb⟩)
        (by rw [List.length_append, List.length_singleton]; omega)
        (by simp [arrived_snoc, hseen])
      refine ⟨n + 1, ?_, ?_⟩
      · rw [hloop, Device.outcomes, hr]
        rwa [List.append_assoc] at hends
      · rw [hloop]
        exact hwaited.succ hr
    · obtain ⟨hne, hsome⟩ := not_or.1 hb
      obtain ⟨a, ha⟩ := Option.ne_none_iff_exists'.1 hsome
      have hcount : budget - left = before.length + 1 := by omega
      rw [waitLoop_of_accepted hr hne ha, hcount]
      refine ⟨1, ?_, Waited.succ hr (.zero _)⟩
      rw [hone (by rw [hr])]
      exact .accepted hbefore hlt hne ha

lemma waitFor_ends (h : Host δ) (budget : Nat) (accept? : Bytes → Option α) : ∃ n,
    Ends accept? budget (Device.outcomes n h.device) (waitFor budget accept? h).1 ∧
      Waited h (waitFor budget accept? h).2 n :=
  h.waitLoop_ends false [] nofun (Nat.zero_add budget) (by simp [not_arrived_nil])

end Host

/-- **Bounded waits are exact**: whatever the device gives, a wait is ended by the first of its
calls that fails or gives an accepted frame, if that is within the budget, and by its budget
otherwise. Nothing else has been done with the device, so what later calls were to give is still to
come, and nothing of the host has changed but its buffer and its log. -/
theorem waitFor_exact {δ α : Type} [Device δ] (h : Host δ) (budget : Nat)
    (accept? : Bytes → Option α) : ∃ n,
    Ends accept? budget (Device.outcomes n h.device) (Host.waitFor budget accept? h).1 ∧
      Host.Waited h (Host.waitFor budget accept? h).2 n ∧
      ∀ k, Device.outcomes k (Host.waitFor budget accept? h).2.device =
        (Device.outcomes (n + k) h.device).drop n := by
  obtain ⟨n, hends, hwaited⟩ := h.waitFor_ends budget accept?
  refine ⟨n, hends, hwaited, fun k => ?_⟩
  rw [hwaited.device, Device.outcomes_drained]

end PacketHost
