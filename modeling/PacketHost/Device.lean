import PacketHost.Bytes

/-!
Devices that carry whole frames.

A device is a state with two operations. Receiving never waits: it gives one pending frame, cut to
the room there is, or nothing, which is the empty frame. Either operation can fail for a reason.

A device is finite if it runs dry, whatever is sent to it in between: each frame it gives brings it
closer to its end, and sending does not take it further away. A peer that may answer what is sent is
finite in this sense if it will answer only so many times.
-/

namespace PacketHost

class Device (δ : Type) where
  receive : Nat → δ → Except String Bytes × δ
  send : Bytes → δ → Except String Unit × δ
  length_le_of_receive {limit : Nat} {d : δ} {b : Bytes} :
    (receive limit d).1 = .ok b → b.length ≤ limit

/-- Earlier first, then later component. -/
abbrev RankLt : Nat × Nat → Nat × Nat → Prop := Prod.Lex (· < ·) (· < ·)

theorem RankLt.trans {a b c : Nat × Nat} (hab : RankLt a b) (hbc : RankLt b c) : RankLt a c := by
  simp only [RankLt, Prod.lex_def] at *
  omega

class FiniteDevice (δ : Type) extends Device δ where
  rank : δ → Nat × Nat
  rank_receive {limit : Nat} {d : δ} {x : UInt8} {b : Bytes} :
    (receive limit d).1 = .ok (x :: b) → RankLt (rank (receive limit d).2) (rank d)
  rank_send (b : Bytes) (d : δ) :
    rank (send b d).2 = rank d ∨ RankLt (rank (send b d).2) (rank d)

end PacketHost
