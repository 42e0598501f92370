import PacketHost.Proofs.Guarded.Primitives
import PacketHost.Proofs.Turn

/-!
Turns within the region.

An answer is checked against the capacity before it is written. What an application writes otherwise
is its own concern, and it is up to the application to stay within the part of the region that it is
given (`Action.InRange`). Nothing else in a turn can go out of range: a turn ends without a fault or
in a write that the application must not make (`Action.Strays`).
-/

namespace PacketHost

open Bytes

/-- What an action writes by itself ends within the capacity. -/
def Action.InRange (capacity : Nat) : Action → Prop
  | .write off data => off + data.length ≤ capacity
  | _ => True

/-- What an action writes by itself ends past the capacity, and with which fault. -/
inductive Action.Strays (capacity : Nat) : Action → Fault → Prop
  | write {off : Nat} {data : Bytes} (h : capacity < off + data.length) :
      Strays capacity (.write off data) (.stray off data.length capacity)

lemma Action.InRange.not_strays {capacity : Nat} {a : Action} {fault : Fault}
    (h : a.InRange capacity) : ¬ a.Strays capacity fault := by
  rintro ⟨hpast⟩
  exact Nat.not_lt.2 h hpast

/-- One of the application's actions in a turn does. -/
def Handler.StraysOn (h : Handler) (turn : Nat) (x : Exchange) (fault : Fault) : Prop :=
  ∃ a ∈ h.respond turn x, a.Strays x.capacity fault

namespace Guarded

/-! ### Actions -/

/-- The exchange with other bytes in its region. -/
def withRegion (x : Exchange) (region : Bytes) : Exchange :=
  { x with region, length := min x.length region.length, length_le := Nat.min_le_right .. }

def request (x : Exchange) : Guarded Bytes := slice x.region 0 x.length

/-- The part of the region that an application can write to. -/
def payload (x : Exchange) : Guarded Bytes := slice x.region 0 x.capacity

/-- The exchange with other bytes in that part. -/
def withPayload (x : Exchange) (payload : Bytes) : Exchange :=
  withRegion x (payload ++ x.region.drop x.capacity)

def perform (x : Exchange) : Action → Guarded (Except NetError Unit × Exchange)
  | .reply data =>
    if x.capacity < data.length then
      pure (.error (.payloadTooLarge data.length x.capacity), x)
    else do
      let region ← copy x.region 0 data.length data
      return (.ok (), { withRegion x region with reply := some data.length })
  | .replyInPlace length =>
    if x.capacity < length then pure (.error (.payloadTooLarge length x.capacity), x)
    else pure (.ok (), { x with reply := some length })
  | .write off data => do
    let bytes ← payload x
    require (off + data.length ≤ bytes.length) (.stray off data.length bytes.length)
    return (.ok (), withPayload x (overwrite bytes off data))
  | .edit change => do
    let bytes ← payload x
    let part ← slice bytes 0 (min x.length bytes.length)
    let written ← store bytes 0 part.length ((change part).take part.length)
    return (.ok (), withPayload x written)

def performAll (x : Exchange) :
    List Action → Guarded (List (Except NetError Unit) × Exchange)
  | [] => pure ([], x)
  | a :: as => do
    let (outcome, x) ← perform x a
    let (outcomes, x) ← performAll x as
    return (outcome :: outcomes, x)

section Actions

variable {x : Exchange}

lemma capacity_le : x.capacity ≤ x.region.length := Nat.sub_le _ _

lemma request_eq (x : Exchange) : request x = pure x.request :=
  slice_eq (Nat.zero_le _) x.length_le

lemma payload_eq (x : Exchange) : payload x = pure (x.region.take x.capacity) :=
  slice_eq (Nat.zero_le _) capacity_le

lemma withRegion_of_length {region : Bytes} (h : region.length = x.region.length) :
    withRegion x region = { x with region, length_le := h ▸ x.length_le } := by
  have hlen := x.length_le
  unfold withRegion
  congr 1
  omega

lemma withPayload_overwrite (x : Exchange) (off : Nat) (data : Bytes) :
    withPayload x (overwrite (x.region.take x.capacity) off data) = x.write off data :=
  withRegion_of_length (x.length_region_write off data)

/-- Within the capacity it makes no difference whether the last byte is left out of the region. -/
lemma withRegion_overwrite {data : Bytes} (h : data.length ≤ x.capacity) :
    withRegion x (overwrite x.region 0 data) = x.write 0 data := by
  have hregion : overwrite x.region 0 data = (x.write 0 data).region := by
    refine ext_byteAt (by simp) fun i hi => ?_
    rw [length_overwrite] at hi
    have hcap := capacity_le (x := x)
    rw [Exchange.byteAt_write, byteAt_overwrite]
    by_cases hin : i < 0 + data.length
    · rw [if_pos (by omega), if_pos (by omega)]
    · rw [if_neg (by omega), if_neg (by omega)]
  rw [withRegion_of_length (length_overwrite ..)]
  simp only [hregion]
  rfl

lemma length_payload : (x.region.take x.capacity).length = x.capacity := by
  rw [List.length_take, Nat.min_eq_left capacity_le]

lemma perform_eqUpTo (a : Action) : EqUpTo (a.Strays x.capacity) (perform x a) (x.perform a) := by
  have hcap := capacity_le (x := x)
  cases a with
  | reply data =>
    refine .of_eq ?_
    unfold perform Exchange.perform Exchange.setReply
    dsimp only
    split
    · rfl
    next hfit =>
      rw [copy_eq (Nat.zero_add _) (by omega), pure_bind, withRegion_overwrite (Nat.not_lt.1 hfit)]
  | replyInPlace length =>
    refine .of_eq ?_
    unfold perform Exchange.perform Exchange.setReply
    dsimp only
    split <;> rfl
  | write off data =>
    rw [perform, payload_eq, pure_bind, length_payload, withPayload_overwrite]
    by_cases hin : off + data.length ≤ x.capacity
    · rw [require_eq hin, pure_bind]
      exact .of_eq rfl
    · rw [require_of_not hin]
      exact .of_fault (.write (Nat.not_le.1 hin)) rfl
  | edit change =>
    refine .of_eq ?_
    have hroom := length_payload (x := x)
    have hpart : Bytes.slice (x.region.take x.capacity) 0 (min x.length x.capacity) =
        x.region.take (min x.length x.capacity) := by
      rw [Bytes.slice, List.drop_zero, Nat.sub_zero, List.take_take]
      congr 1
      omega
    rw [perform, payload_eq, pure_bind, hroom, slice_eq (Nat.zero_le _) (by omega), pure_bind,
      hpart, store_eq, pure_bind, withPayload_overwrite]
    · rfl
    · rw [Nat.zero_add, List.length_take]
      exact Nat.min_le_left _ _
    · rw [List.length_take]
      omega

lemma performAll_eqUpTo (actions : List Action) :
    EqUpTo (fun fault => ∃ a ∈ actions, a.Strays x.capacity fault) (performAll x actions)
      (x.performAll actions) := by
  induction actions generalizing x with
  | nil => exact .of_eq rfl
  | cons a as ih =>
    refine ((perform_eqUpTo a).mono ?first).bind ((ih.mono ?rest).bind (.of_eq rfl))
    case first => exact fun fault hfault => ⟨a, List.mem_cons_self, hfault⟩
    case rest =>
      rintro fault ⟨b, hb, hfault⟩
      exact ⟨b, List.mem_cons_of_mem a hb, x.capacity_perform a ▸ hfault⟩

/-- The last byte of a region is not for the application. -/
example : performAll (.start [0, 0] 2 ⟨10, 0, 0, 2⟩ 4000 7) [.write 1 [7]] =
    throw (.stray 1 1 1) :=
  rfl

end Actions

/-! ### Turns -/

/-- An application's turn: the exchange that it leaves, and what can be seen of it. -/
def respond (turn : Nat) (h : Handler) (x : Exchange) : Guarded (Exchange × Delivery) := do
  let asked ← request x
  let (outcomes, done) ← performAll x (h.respond turn x)
  let after ← request done
  return (done,
    { handler := h.name, request := asked, capacity := x.capacity, remoteIp := x.remoteIp,
      remotePort := x.remotePort, localPort := x.localPort, outcomes, after })

def deliver (turn : Nat) (f : Frame) (h : Handler) (start len : Nat) (remoteIp : Ipv4Addr)
    (remotePort localPort : UInt16) : Guarded (Frame × Option Nat × Delivery) := do
  let region ← part f start maxFrameLength
  let (x, seen) ← respond turn h (.start region len remoteIp remotePort localPort)
  let f ← copyTo f start maxFrameLength x.region
  return (f, x.reply, seen)

variable {turn start len : Nat} {f : Frame} {h : Handler} {remoteIp : Ipv4Addr}
  {remotePort localPort : UInt16}

lemma respond_eqUpTo (x : Exchange) :
    EqUpTo (h.StraysOn turn x) (respond turn h x) (x.after turn h, x.delivery turn h) := by
  rw [respond, request_eq, pure_bind]
  refine (performAll_eqUpTo (h.respond turn x)).bind (.of_eq ?_)
  dsimp only
  rw [request_eq, pure_bind]
  rfl

/-- The region keeps its size, so it fits where it came from. -/
lemma deliver_eqUpTo (hstart : start ≤ maxFrameLength) :
    EqUpTo (h.StraysOn turn (f.exchange ⟨h, start, len, remoteIp, remotePort, localPort⟩))
      (deliver turn f h start len remoteIp remotePort localPort)
      (f.deliver turn h start len remoteIp remotePort localPort) := by
  have hsize := f.length_region_turned ⟨h, start, len, remoteIp, remotePort, localPort⟩ turn
  rw [deliver, part_eq hstart (by decide), pure_bind]
  refine (respond_eqUpTo _).bind (.of_eq ?_)
  dsimp only
  rw [copyTo_eq (by rw [hsize, Nat.add_sub_cancel' hstart]) (by decide), pure_bind]
  rfl

end Guarded

end PacketHost
