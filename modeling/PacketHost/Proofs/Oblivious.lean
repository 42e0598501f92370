import PacketHost.Device.Faulty
import PacketHost.Proofs.Lockstep
import PacketHost.Proofs.Resolution

/-!
What a host asks, and what it makes of the answers, is none of its buffer's business.

Two devices in memory cannot be told apart if the same is pending, the script has the same rules
left, and the same calls from now on are to fail; what has happened before is of no account. Hosts
on two such devices that have the same settings and counters ask the same and are told the same,
although one may hold in its buffer what the other has never seen.
-/

namespace PacketHost

open Bytes Received Device

/-! ### Devices that cannot be told apart -/

namespace MemoryDevice

/-- The same is to come of both. What has been sent before may differ. -/
structure SameAhead (d e : MemoryDevice) : Prop where
  queue_eq : d.queue = e.queue
  script_eq : d.script = e.script

lemma lockstep_sameAhead : Lockstep SameAhead where
  receive := by
    rintro ⟨queue, sent, script, calls⟩ ⟨_, sent', _, calls'⟩ ⟨rfl, rfl⟩
    exact ⟨rfl, rfl, rfl⟩
  send := by
    rintro ⟨queue, sent, script, calls⟩ ⟨_, sent', _, calls'⟩ b ⟨rfl, rfl⟩
    exact ⟨rfl, rfl, rfl⟩

end MemoryDevice

namespace FaultPlan

/-- What becomes of the calls to come, counted from the next one on. -/
def ahead (p : FaultPlan) (i : Nat) : Option String := p.reason? (p.calls + i)

lemma ahead_zero (p : FaultPlan) : p.ahead 0 = p.current? := rfl

lemma ahead_advance (p : FaultPlan) : p.advance.ahead = fun i => p.ahead (i + 1) := by
  funext i
  show p.reason? (p.calls + 1 + i) = p.reason? (p.calls + (i + 1))
  rw [Nat.add_assoc, Nat.add_comm 1]

variable {p q : FaultPlan}

lemma current?_congr (h : p.ahead = q.ahead) : p.current? = q.current? := by
  rw [← ahead_zero, h, ahead_zero]

lemma ahead_advance_congr (h : p.ahead = q.ahead) : p.advance.ahead = q.advance.ahead := by
  rw [ahead_advance, h, ahead_advance]

end FaultPlan

namespace FaultyDevice

variable {δ : Type} {R : δ → δ → Prop}

/-- The devices inside are related, and the same calls are to fail from now on. -/
structure SameAhead (R : δ → δ → Prop) (d e : FaultyDevice δ) : Prop where
  inner : R d.inner e.inner
  receive_eq : d.receivePlan.ahead = e.receivePlan.ahead
  send_eq : d.sendPlan.ahead = e.sendPlan.ahead

lemma lockstepUpto_sameAhead [Device δ] {S : Bytes → Bytes → Prop} (hR : LockstepUpto S R) :
    LockstepUpto S (SameAhead R) where
  alike := hR.alike
  receive {d e} h := by
    have hplan := FaultPlan.ahead_advance_congr h.receive_eq
    obtain ⟨hgiven, hinner⟩ := hR.receive h.inner
    simp only [Device.receive, FaultyDevice.receive]
    rw [FaultPlan.current?_congr h.receive_eq]
    split
    · exact ⟨.error _, h.inner, hplan, h.send_eq⟩
    · exact ⟨hgiven, hinner, hplan, h.send_eq⟩
  send {d e} b h := by
    have hplan := FaultPlan.ahead_advance_congr h.send_eq
    obtain ⟨hsame, hinner⟩ := hR.send b h.inner
    simp only [Device.send, FaultyDevice.send]
    rw [FaultPlan.current?_congr h.send_eq]
    split
    · exact ⟨rfl, h.inner, h.receive_eq, hplan⟩
    · exact ⟨hsame, hinner, h.receive_eq, hplan⟩

lemma lockstep_sameAhead [Device δ] (hR : Lockstep R) : Lockstep (SameAhead R) :=
  lockstep_iff.2 (lockstepUpto_sameAhead (lockstep_iff.1 hR))

end FaultyDevice

/-! ### What a device has recorded -/

/-- A frame that the device has accepted. -/
def Device.Event.sent? : Event → Option Bytes
  | .send b (.ok ()) => some b
  | .send _ (.error _) => none
  | .receive _ => none

/-- These calls have been made, and are recorded: the frames that were sent, and how many calls of
either kind there were, those that failed included. -/
structure Recorded (events : List Event) (d d' : FaultyDevice MemoryDevice) : Prop where
  trace : Trace d events d'
  sent_eq : d'.inner.sent = d.inner.sent ++ events.filterMap Event.sent?
  receives_eq : d'.receivePlan.calls = d.receivePlan.calls + events.countP Event.isReceive
  sends_eq : d'.sendPlan.calls = d.sendPlan.calls + events.countP Event.isSend

lemma recorded_receive (d : FaultyDevice MemoryDevice) :
    Recorded [.receive (Device.receive frameSize d).1] d (Device.receive frameSize d).2 := by
  -- a call counts whether or not it is made to fail
  have hcounts : (Device.receive frameSize d).2.inner.sent = d.inner.sent ∧
      (Device.receive frameSize d).2.receivePlan.calls = d.receivePlan.calls + 1 ∧
      (Device.receive frameSize d).2.sendPlan.calls = d.sendPlan.calls := by
    simp only [Device.receive, FaultyDevice.receive]
    split <;> exact ⟨rfl, rfl, rfl⟩
  obtain ⟨hsent, hreceives, hsends⟩ := hcounts
  refine ⟨.receive (.nil _), ?_, hreceives, hsends⟩
  rw [hsent]
  exact (List.append_nil _).symm

lemma recorded_send (b : Bytes) (d : FaultyDevice MemoryDevice) :
    Recorded [.send b (Device.send b d).1] d (Device.send b d).2 := by
  have hcounts : (Device.send b d).2.inner.sent =
        d.inner.sent ++ [Event.send b (Device.send b d).1].filterMap Event.sent? ∧
      (Device.send b d).2.receivePlan.calls = d.receivePlan.calls ∧
      (Device.send b d).2.sendPlan.calls = d.sendPlan.calls + 1 := by
    simp only [Device.send, FaultyDevice.send]
    split
    · exact ⟨(List.append_nil _).symm, rfl, rfl⟩
    · exact ⟨rfl, rfl, rfl⟩
  obtain ⟨hsent, hreceives, hsends⟩ := hcounts
  exact ⟨.send b (.nil _), hsent, hreceives, hsends⟩

lemma Recorded.append {xs ys : List Event} {d₁ d₂ d₃ : FaultyDevice MemoryDevice}
    (hxs : Recorded xs d₁ d₂) (hys : Recorded ys d₂ d₃) : Recorded (xs ++ ys) d₁ d₃ where
  trace := hxs.trace.append hys.trace
  sent_eq := by rw [hys.sent_eq, hxs.sent_eq, List.filterMap_append, List.append_assoc]
  receives_eq := by rw [hys.receives_eq, hxs.receives_eq, List.countP_append, Nat.add_assoc]
  sends_eq := by rw [hys.sends_eq, hxs.sends_eq, List.countP_append, Nat.add_assoc]

lemma recorded_of_trace {events : List Event} {d d' : FaultyDevice MemoryDevice}
    (h : Trace d events d') : Recorded events d d' := by
  induction h with
  | nil d => exact ⟨.nil d, (List.append_nil _).symm, rfl, rfl⟩
  | receive _ ih => exact (recorded_receive _).append ih
  | send b _ ih => exact (recorded_send b _).append ih

/-! ### Asking in the dark -/

namespace Host

/-- Hosts on devices in memory that will ask the same and be told the same. -/
abbrev InStep : Host (FaultyDevice MemoryDevice) → Host (FaultyDevice MemoryDevice) → Prop :=
  Twins (FaultyDevice.SameAhead MemoryDevice.SameAhead)

/-- Two runs, from `h` and from `g`, that have come to the same result by the same calls with the
same outcomes, and have left the same frames pending. -/
structure Indistinct {α : Type} (h g : Host (FaultyDevice MemoryDevice))
    (x y : Except NetError α × Host (FaultyDevice MemoryDevice)) : Prop where
  result_eq : x.1 = y.1
  calls : ∃ events, Recorded events h.device x.2.device ∧ Recorded events g.device y.2.device
  pending_eq : x.2.device.inner.queue = y.2.device.inner.queue
  /-- What is asked next will be the same as well. -/
  inStep : InStep x.2 y.2

variable {α : Type} {h g : Host (FaultyDevice MemoryDevice)}

/-- The runs are followed with all the calls that they have made so far. -/
lemma indistinct_of_alike {t : Task (FaultyDevice MemoryDevice) α} (ht : InStep h g)
    (hrun : ∀ {R : FaultyDevice MemoryDevice → FaultyDevice MemoryDevice → Prop},
      LockstepUpto Eq R → Twins R h g → Alike R Unlike (t h) (t g)) :
    Indistinct h g (t h) (t g) := by
  have hlockstep := FaultyDevice.lockstep_sameAhead MemoryDevice.lockstep_sameAhead
  have hstart : Twins (Together (FaultyDevice.SameAhead MemoryDevice.SameAhead) h.device g.device)
      h g :=
    ⟨.refl ht.device, ht.settings_eq, ht.pingSequence_eq, ht.dnsTransaction_eq⟩
  obtain ⟨hresult, ⟨⟨hahead, events, htrace, htrace'⟩, hsettings, hping, hdns⟩, -⟩ :=
    hrun (lockstep_iff.1 (hlockstep.together h.device g.device)) hstart
  exact
    { result_eq := hresult
      calls := ⟨events, recorded_of_trace htrace, recorded_of_trace htrace'⟩
      pending_eq := hahead.inner.queue_eq
      inStep := ⟨hahead, hsettings, hping, hdns⟩ }

end Host

/-- **A host asks in the dark**: what was in its buffer makes no difference to what it asks, nor to
what it is told. Two hosts with the same settings and counters, on devices that have the same ahead
of them, come to the same result by the same calls, whatever has been received, sent, registered and
delivered before; and they leave the same frames pending. -/
theorem inquiries_ignore_buffer {h g : Host (FaultyDevice MemoryDevice)} (ht : Host.InStep h g) :
    (∀ ip budget, Host.Indistinct h g (Host.resolve ip budget h) (Host.resolve ip budget g)) ∧
    (∀ ip budget, Host.Indistinct h g (Host.ping ip budget h) (Host.ping ip budget g)) ∧
    ∀ server name budget, Host.Indistinct h g (Host.resolveName server name budget h)
      (Host.resolveName server name budget g) := by
  refine ⟨fun ip budget => ?_, fun ip budget => ?_, fun server name budget => ?_⟩
  · exact Host.indistinct_of_alike ht fun hR ht => ht.resolve hR ip budget
  · exact Host.indistinct_of_alike ht fun hR ht => ht.ping hR ip budget
  · exact Host.indistinct_of_alike ht fun hR ht => ht.resolveName hR server name budget

/-- A host that has not done anything yet, on a device whose peer tells its address and a name. -/
def Host.fresh : Host (FaultyDevice MemoryDevice) :=
  Host.new { inner := { script := [fun _ => [toldByServer], fun _ => [answerOfServer]] } } {}

/-- The same host after it has had a datagram, and has failed to send an answer. -/
def Host.worn : Host (FaultyDevice MemoryDevice) :=
  { Host.fresh with
    device := { inner := { Host.fresh.device.inner with sent := [oddDatagram], receiveCalls := 2 }
                receivePlan := { calls := 3 }
                sendPlan := FaultPlan.advance (FaultPlan.failAfter {} 0 "full") }
    frame := Frame.blank.write 0 oddDatagram
    handlers := (Host.echoing []).handlers }

lemma inStep_worn : Host.InStep Host.fresh Host.worn := by
  refine ⟨⟨⟨rfl, rfl⟩, rfl, ?_⟩, rfl, rfl, rfl⟩
  funext i
  exact (if_neg (show 0 + 1 + i ≠ 0 + 0 by omega)).symm

lemma resolveName_fresh : ∃ h', Host.resolveName ⟨10, 0, 0, 2⟩ "a.b" 1 Host.fresh =
    (.ok ⟨75, ⟨93, 184, 216, 34⟩⟩, h') := by
  have hlearns : Host.fresh.Learns ⟨10, 0, 0, 2⟩ 1 _ _ :=
    .intro rfl (.here rfl) tellsHardware_toldByServer (Nat.le_refl 1)
  have hlabels : ∀ l ∈ Dns.nameLabels "a.b", Dns.isLabel l = true := by decide +kernel
  have hresponse := responds_answerOfServer
  have hrun := Host.resolveName_of_gives hlearns hlabels (by decide +kernel) rfl (.here rfl)
    hresponse.answersQuery (Nat.le_refl 1) (hresponse.answerOffset_eq hlabels) hresponse.length_le
  obtain ⟨h', -, -, hrun⟩ := hrun
  exact ⟨h', hrun⟩

/-- The host that has been in use is told what the other one is. -/
theorem inquiries_ignore_buffer_worn :
    (Host.resolveName ⟨10, 0, 0, 2⟩ "a.b" 1 Host.worn).1 = .ok ⟨75, ⟨93, 184, 216, 34⟩⟩ := by
  obtain ⟨-, -, hresolveName⟩ := inquiries_ignore_buffer inStep_worn
  obtain ⟨h', hfresh⟩ := resolveName_fresh
  rw [← (hresolveName ⟨10, 0, 0, 2⟩ "a.b" 1).result_eq, hfresh]

end PacketHost
