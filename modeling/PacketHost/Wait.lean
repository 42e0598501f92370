import PacketHost.Host

/-!
Waiting for a frame, for so many polls at most.

A frame that is not accepted is dropped and not reacted to. A poll that finds nothing counts as
well. A wait in which nothing at all arrived ends differently from one in which other frames did.
-/

namespace PacketHost

namespace Host

variable {δ : Type} [Device δ] {α : Type}

/-- Waits with `left` polls to go of `budget`. `seen` tells whether anything has arrived so far. -/
def waitLoop (accept? : Bytes → Option α) (budget : Nat) :
    Nat → Bool → Host δ → Except NetError (α × Nat) × Host δ
  | 0, seen, h => (.error (if seen then .timeout budget else .noReply budget), h)
  | left + 1, seen, h =>
    match h.receive with
    | (.error reason, h) => (.error (.device reason), h)
    | (.ok [], h) => waitLoop accept? budget left seen h
    | (.ok (x :: b), h) =>
      match accept? (x :: b) with
      | some a => (.ok (a, budget - left), h)
      | none => waitLoop accept? budget left true (h.note .unmatched)

/-- Polls until a frame is accepted, and gives what it was accepted as, with the number of polls. -/
def waitFor (budget : Nat) (accept? : Bytes → Option α) : Task δ (α × Nat) :=
  fun h => waitLoop accept? budget budget false h

end Host

end PacketHost
