import PacketHost.Proofs.Agreement
import PacketHost.Reaction

/-!
An application's turn.

Whatever an application does, its exchange keeps its size, its request length and its addresses, and
an answer always fits the capacity, which is one byte less than the region. So a turn over a region
of the frame touches nothing in front of the region and nothing behind it, and leaves room for
padding.
-/

namespace PacketHost

open Bytes

namespace Exchange

lemma byteAt_write (x : Exchange) (off : Nat) (data : Bytes) (i : Nat) :
    byteAt (x.write off data).region i =
      if off ≤ i ∧ i < off + data.length ∧ i < x.capacity then byteAt data (i - off)
      else byteAt x.region i := by
  have hcap : min x.capacity x.region.length = x.capacity := Nat.min_eq_left (Nat.sub_le _ _)
  simp only [write, byteAt_append, length_overwrite, List.length_take, byteAt_overwrite,
    byteAt_take, byteAt_drop, hcap]
  by_cases hi : i < x.capacity
  · simp [hi]
  · rw [if_neg hi, if_neg (by omega), Nat.add_sub_cancel' (Nat.not_lt.1 hi)]

/-- What no action changes, and where an answer ends. -/
structure Follows (x y : Exchange) : Prop where
  size : y.region.length = x.region.length
  length : y.length = x.length
  remoteIp : y.remoteIp = x.remoteIp
  remotePort : y.remotePort = x.remotePort
  localPort : y.localPort = x.localPort
  reply : (∀ n ∈ x.reply, n ≤ x.capacity) → ∀ n ∈ y.reply, n ≤ y.capacity

namespace Follows

variable {x y z : Exchange}

lemma refl (x : Exchange) : Follows x x := ⟨rfl, rfl, rfl, rfl, rfl, id⟩

lemma trans (hxy : Follows x y) (hyz : Follows y z) : Follows x z where
  size := hyz.size.trans hxy.size
  length := hyz.length.trans hxy.length
  remoteIp := hyz.remoteIp.trans hxy.remoteIp
  remotePort := hyz.remotePort.trans hxy.remotePort
  localPort := hyz.localPort.trans hxy.localPort
  reply h := hyz.reply (hxy.reply h)

end Follows

lemma follows_write (x : Exchange) (off : Nat) (data : Bytes) : Follows x (x.write off data) where
  size := x.length_region_write off data
  length := rfl
  remoteIp := rfl
  remotePort := rfl
  localPort := rfl
  reply h n hn := by
    rw [capacity_write]
    exact h n hn

lemma follows_setReply {x y : Exchange} (h : Follows x y) (n : Nat) :
    Follows x (x.setReply n y).2 := by
  unfold setReply
  split
  · exact .refl x
  next hn =>
    refine ⟨h.size, h.length, h.remoteIp, h.remotePort, h.localPort, fun _ k hk => ?_⟩
    simp only [Option.mem_some_iff] at hk
    subst hk
    have hsize := h.size
    simp only [capacity] at hn ⊢
    omega

lemma follows_perform (x : Exchange) (a : Action) : Follows x (x.perform a).2 := by
  cases a with
  | reply data => exact follows_setReply (x.follows_write 0 data) _
  | replyInPlace n => exact follows_setReply (.refl x) n
  | write off data => exact x.follows_write off data
  | edit change => exact x.follows_write 0 _

lemma follows_performAll (x : Exchange) (as : List Action) : Follows x (x.performAll as).2 := by
  induction as generalizing x with
  | nil => exact .refl x
  | cons a as ih => exact (x.follows_perform a).trans (ih _)

lemma capacity_perform (x : Exchange) (a : Action) : (x.perform a).2.capacity = x.capacity := by
  rw [capacity, (x.follows_perform a).size, capacity]

lemma capacity_performAll (x : Exchange) (as : List Action) :
    (x.performAll as).2.capacity = x.capacity := by
  rw [capacity, (x.follows_performAll as).size, capacity]

/-- The exchange when an application is done with it. -/
def after (x : Exchange) (turn : Nat) (h : Handler) : Exchange :=
  (x.performAll (h.respond turn x)).2

/-- What can be seen of a turn. -/
def delivery (x : Exchange) (turn : Nat) (h : Handler) : Delivery :=
  { handler := h.name, request := x.request, capacity := x.capacity, remoteIp := x.remoteIp,
    remotePort := x.remotePort, localPort := x.localPort,
    outcomes := (x.performAll (h.respond turn x)).1, after := (x.after turn h).request }

lemma follows_after (x : Exchange) (turn : Nat) (h : Handler) : Follows x (x.after turn h) :=
  x.follows_performAll _

lemma reply_after_le {x : Exchange} (hx : x.reply = none) {turn n : Nat} {h : Handler}
    (hn : (x.after turn h).reply = some n) : n ≤ x.capacity := by
  have hf := x.follows_after turn h
  have hle := hf.reply (by simp [hx]) n (by simp [hn])
  rwa [capacity, hf.size] at hle

end Exchange

/-- A turn that a received frame gives to an application: over which bytes of the buffer, and
between whom. -/
structure Call where
  handler : Handler
  start : Nat
  length : Nat
  remoteIp : Ipv4Addr
  remotePort : UInt16
  localPort : UInt16

/-- The room for an answer. -/
def Call.capacity (c : Call) : Nat := maxFrameLength - c.start - 1

namespace Frame

variable (f : Frame) (c : Call) (turn : Nat)

def exchange : Exchange :=
  .start (f.slice c.start maxFrameLength) c.length c.remoteIp c.remotePort c.localPort

/-- The frame after a turn. -/
def turned : Frame := f.write c.start ((f.exchange c).after turn c.handler).region

/-- The frame, the length of the answer and what can be seen, after a turn. -/
def takeTurn : Frame × Option Nat × Delivery :=
  (f.turned c turn, ((f.exchange c).after turn c.handler).reply,
    (f.exchange c).delivery turn c.handler)

lemma deliver_eq :
    f.deliver turn c.handler c.start c.length c.remoteIp c.remotePort c.localPort =
      f.takeTurn c turn :=
  rfl

lemma length_region_exchange : (f.exchange c).region.length = maxFrameLength - c.start := by
  rw [exchange, Exchange.start, length_slice]
  show min (1514 - c.start) (1536 - c.start) = 1514 - c.start
  omega

lemma capacity_exchange : (f.exchange c).capacity = c.capacity := by
  rw [Exchange.capacity, length_region_exchange, Call.capacity]

lemma length_region_turned :
    ((f.exchange c).after turn c.handler).region.length = maxFrameLength - c.start := by
  rw [((f.exchange c).follows_after turn c.handler).size, length_region_exchange]

/-- An application writes to its region only. -/
lemma agreeOn_turned {start stop : Nat} (h : stop ≤ c.start) :
    AgreeOn start stop (f.turned c turn) f :=
  agreeOn_write (.inr h)

/-- An answer and a byte of padding end where the largest frame does. -/
lemma reply_turned_lt {n : Nat} (h : ((f.exchange c).after turn c.handler).reply = some n)
    (hstart : c.start < maxFrameLength) : c.start + n < maxFrameLength := by
  have hn := Exchange.reply_after_le (x := f.exchange c) rfl h
  rw [capacity_exchange, Call.capacity] at hn
  omega

/-- The request stands in the frame where the call says, as far as the region goes. -/
lemma request_exchange :
    (f.exchange c).request =
      (f.slice c.start (c.start + c.length)).take (maxFrameLength - c.start) := by
  have hsize := f.length_region_exchange c
  simp only [exchange, Exchange.start, slice, Bytes.slice] at hsize
  simp only [Exchange.request, exchange, Exchange.start, slice, Bytes.slice, List.take_take, hsize,
    Nat.add_sub_cancel_left]
  congr 1
  omega

/-- Two frames that agree on a region offer the same exchange over it. -/
lemma exchange_congr {g : Frame} (h : AgreeOn c.start maxFrameLength f g) :
    f.exchange c = g.exchange c := by
  rw [exchange, exchange, h.slice_eq (Nat.le_refl _) (Nat.le_refl _)]

end Frame

end PacketHost
