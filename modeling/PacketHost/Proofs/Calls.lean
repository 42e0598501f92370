import PacketHost.Proofs.Dispatch

/-!
The calls that a device has had.

A trace is everything that passes between a host and its device: each call, with what came of it.
What the next calls give is up to the device, so a trace is a relation between two states of the
device. A run of receive calls has just one trace from each state, that of its outcomes.
-/

namespace PacketHost

open Bytes

namespace Device

/-- A call, with what came of it. -/
inductive Event
  | receive (outcome : Except String Bytes)
  | send (frame : Bytes) (outcome : Except String Unit)

def Event.isReceive : Event → Bool
  | .receive _ => true
  | .send _ _ => false

def Event.isSend : Event → Bool
  | .receive _ => false
  | .send _ _ => true

variable {δ : Type} [Device δ]

/-- These calls, the first one first, and no others, lead from one state to the other. -/
inductive Trace : δ → List Event → δ → Prop
  | nil (d : δ) : Trace d [] d
  | receive {d d' : δ} {events : List Event}
      (h : Trace (Device.receive frameSize d).2 events d') :
      Trace d (.receive (Device.receive frameSize d).1 :: events) d'
  | send {d d' : δ} {events : List Event} (b : Bytes) (h : Trace (Device.send b d).2 events d') :
      Trace d (.send b (Device.send b d).1 :: events) d'

lemma Trace.append {d₁ d₂ d₃ : δ} {xs ys : List Event} (hxs : Trace d₁ xs d₂)
    (hys : Trace d₂ ys d₃) : Trace d₁ (xs ++ ys) d₃ := by
  induction hxs with
  | nil => exact hys
  | receive _ ih => exact .receive (ih hys)
  | send b _ ih => exact .send b (ih hys)

/-! ### Receiving -/

/-- What the next receive calls give. -/
def outcomes : Nat → δ → List (Except String Bytes)
  | 0, _ => []
  | n + 1, d => (Device.receive frameSize d).1 :: outcomes n (Device.receive frameSize d).2

/-- The device after that many receive calls, and no other call. -/
def drained : Nat → δ → δ
  | 0, d => d
  | n + 1, d => drained n (Device.receive frameSize d).2

@[simp] lemma length_outcomes (n : Nat) (d : δ) : (outcomes n d).length = n := by
  induction n generalizing d with
  | zero => rfl
  | succ n ih => rw [outcomes, List.length_cons, ih]

lemma outcomes_add (m n : Nat) (d : δ) :
    outcomes (m + n) d = outcomes m d ++ outcomes n (drained m d) := by
  induction m generalizing d with
  | zero => rw [Nat.zero_add, outcomes, drained, List.nil_append]
  | succ m ih => rw [Nat.add_right_comm, outcomes, outcomes, drained, List.cons_append, ih]

/-- No frame is larger than there is room for. -/
lemma length_le_of_mem_outcomes {b : Bytes} {n : Nat} {d : δ} (h : .ok b ∈ outcomes n d) :
    b.length ≤ frameSize := by
  induction n generalizing d with
  | zero => exact absurd h List.not_mem_nil
  | succ n ih =>
    rcases List.mem_cons.1 h with hfirst | hlater
    · exact Device.length_le_of_receive hfirst.symm
    · exact ih hlater

/-- What calls have not been made for is still to come. -/
lemma outcomes_drained (m n : Nat) (d : δ) :
    outcomes n (drained m d) = (outcomes (m + n) d).drop m := by
  rw [outcomes_add, List.drop_left' (length_outcomes m d)]

lemma trace_drained (n : Nat) (d : δ) : Trace d ((outcomes n d).map .receive) (drained n d) := by
  induction n generalizing d with
  | zero => exact .nil d
  | succ n ih => exact .receive (ih _)

end Device

end PacketHost
