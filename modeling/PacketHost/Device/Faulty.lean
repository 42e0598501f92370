import PacketHost.Device

/-!
A device whose calls fail as planned.

There is a plan for each of the two operations, which says of every call, counted from the first one
on, whether it is to fail. A call that is made to fail does not reach the device inside, but it
counts.
-/

namespace PacketHost

structure FaultPlan where
  /-- How many calls there have been. -/
  calls : Nat := 0
  /-- The reason to fail a call, if it is to fail. Calls are counted from zero. -/
  reason? : Nat → Option String := fun _ => none

namespace FaultPlan

/-- What becomes of the call to come. -/
def current? (p : FaultPlan) : Option String := p.reason? p.calls

def advance (p : FaultPlan) : FaultPlan := { p with calls := p.calls + 1 }

/-- From now on, lets so many calls pass, fails one, and lets all others pass. -/
def failAfter (p : FaultPlan) (n : Nat) (reason : String) : FaultPlan :=
  { p with reason? := fun i => if i = p.calls + n then some reason else none }

end FaultPlan

structure FaultyDevice (δ : Type) where
  inner : δ
  receivePlan : FaultPlan := {}
  sendPlan : FaultPlan := {}

namespace FaultyDevice

variable {δ : Type}

def receive [Device δ] (limit : Nat) (d : FaultyDevice δ) :
    Except String Bytes × FaultyDevice δ :=
  let d' := { d with receivePlan := d.receivePlan.advance }
  match d.receivePlan.current? with
  | some reason => (.error reason, d')
  | none =>
    let r := Device.receive limit d.inner
    (r.1, { d' with inner := r.2 })

def send [Device δ] (b : Bytes) (d : FaultyDevice δ) : Except String Unit × FaultyDevice δ :=
  let d' := { d with sendPlan := d.sendPlan.advance }
  match d.sendPlan.current? with
  | some reason => (.error reason, d')
  | none =>
    let r := Device.send b d.inner
    (r.1, { d' with inner := r.2 })

instance [Device δ] : Device (FaultyDevice δ) where
  receive := receive
  send := send
  length_le_of_receive {limit d b} h := by
    unfold receive at h
    split at h
    · cases h
    · exact Device.length_le_of_receive h

instance [FiniteDevice δ] : FiniteDevice (FaultyDevice δ) where
  rank d := FiniteDevice.rank d.inner
  rank_receive {limit d x b} h := by
    simp only [Device.receive] at h ⊢
    unfold receive at h ⊢
    split at h
    · cases h
    next hd => exact FiniteDevice.rank_receive h
  rank_send b d := by
    simp only [Device.send]
    unfold send
    split
    · exact .inl rfl
    · exact FiniteDevice.rank_send b d.inner

end FaultyDevice

end PacketHost
