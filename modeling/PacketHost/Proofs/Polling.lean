import PacketHost.Device.Faulty
import PacketHost.Proofs.Dispatch
import PacketHost.Proofs.Independence

/-!
Polling, one pending frame after the other.

What a frame causes is what it would cause on a new host that receives nothing else (`Host.alone`).
The buffer carries bytes over from one frame to the next, also those of answers that could not be
sent, but no answer and no application that goes by its request ever sees them. A send that fails
therefore loses one frame, and nothing else.
-/

namespace PacketHost

open Bytes

/-! ### A device on which sending may fail -/

namespace FaultPlan

variable {α : Type} (p : FaultPlan)

/-- Those of the next calls that are not made to fail. -/
def passing (calls : List α) : List α :=
  ((calls.zipIdx p.calls).filter fun call => (p.reason? call.2).isNone).map (·.1)

def skip (n : Nat) : FaultPlan := { p with calls := p.calls + n }

lemma passing_append (xs ys : List α) :
    p.passing (xs ++ ys) = p.passing xs ++ (p.skip xs.length).passing ys := by
  rw [passing, List.zipIdx_append, List.filter_append, List.map_append]
  rfl

lemma passing_singleton (x : α) :
    p.passing [x] = if (p.reason? p.calls).isNone then [x] else [] := by
  rw [passing, List.zipIdx_singleton]
  cases hfail : (p.reason? p.calls).isNone <;> simp [hfail]

end FaultPlan

namespace FaultyDevice

/-- A device with these frames pending, with no peer to answer, and on which receiving does not
fail. -/
structure Pending (d : FaultyDevice MemoryDevice) (queue : List Bytes) : Prop where
  queue_eq : d.inner.queue = queue
  script_eq : d.inner.script = []
  receives : ∀ i, d.receivePlan.reason? i = none

variable {d : FaultyDevice MemoryDevice} {queue : List Bytes}

lemma Pending.receive_eq (h : d.Pending queue) :
    Device.receive frameSize d =
      (.ok ((queue.headD []).take frameSize),
        { d with
          receivePlan := d.receivePlan.advance
          inner := (d.inner.receive frameSize).2 }) := by
  obtain ⟨hqueue, hscript, hreceives⟩ := h
  subst hqueue
  have hnone : d.receivePlan.current? = none := hreceives d.receivePlan.calls
  show FaultyDevice.receive frameSize d = _
  rw [FaultyDevice.receive, hnone]
  rfl

lemma Pending.tail (h : d.Pending queue) : (Device.receive frameSize d).2.Pending queue.tail := by
  rw [h.receive_eq]
  exact ⟨congrArg List.tail h.queue_eq, h.script_eq, h.receives⟩

lemma Pending.handed_eq (h : d.Pending queue) (out : Option Bytes) :
    Device.handed d out =
      { d with
        inner := { d.inner with sent := d.inner.sent ++ d.sendPlan.passing out.toList }
        sendPlan := d.sendPlan.skip out.toList.length } := by
  obtain ⟨⟨queue', sent, script, receiveCalls⟩, receivePlan, sendPlan⟩ := d
  obtain ⟨hqueue, hscript, hreceives⟩ := h
  dsimp only at hqueue hscript
  subst hqueue hscript
  cases out with
  | none =>
    simp only [Device.handed, Option.toList_none, FaultPlan.passing, List.zipIdx_nil,
      List.filter_nil, List.map_nil, List.append_nil]
    rfl
  | some g =>
    simp only [Option.toList_some, FaultPlan.passing_singleton]
    show (FaultyDevice.send g _).2 = _
    unfold FaultyDevice.send
    dsimp only
    cases hfail : sendPlan.current? with
    | some reason =>
      have hreason : sendPlan.reason? sendPlan.calls = some reason := hfail
      simp only [hreason, Option.isNone_some, Bool.false_eq_true, if_false, List.append_nil]
      rfl
    | none =>
      have hreason : sendPlan.reason? sendPlan.calls = none := hfail
      simp only [hreason, Option.isNone_none, if_true]
      simp [Device.send, MemoryDevice.send, FaultPlan.advance, FaultPlan.skip]

lemma Pending.handed (h : d.Pending queue) (out : Option Bytes) :
    (Device.handed d out).Pending queue := by
  rw [h.handed_eq]
  exact ⟨h.queue_eq, h.script_eq, h.receives⟩

end FaultyDevice

/-! ### A frame alone -/

namespace Host

/-- A new host with one frame pending. -/
def alone (s : Settings) (r : Registry) (b : Bytes) : Host MemoryDevice :=
  { Host.new { queue := [b] } s with handlers := r }

variable {s : Settings} {r : Registry} {b : Bytes}

lemma poll_alone (hb : b ≠ []) :
    (alone s r b).poll.2.deliveries =
        ((alone s r b).reaction (b.take frameSize)).delivery.toList ∧
      (alone s r b).poll.2.device.sent =
        ((alone s r b).reaction (b.take frameSize)).outgoing?.toList := by
  obtain ⟨log, hpoll⟩ := (alone s r b).poll_single hb rfl rfl
  rw [hpoll]
  exact ⟨List.nil_append _, List.nil_append _⟩

/-- A frame causes on any host what it causes on a new one. -/
lemma reaction_eq_alone {δ : Type} [Device δ] (h : Host δ) (hr : h.handlers.Stateless)
    {b' : Bytes} (hb : b'.length ≤ frameSize) :
    (h.reaction b').outgoing? = ((alone h.settings h.handlers b).reaction b').outgoing? ∧
      (h.reaction b').delivery = ((alone h.settings h.handlers b).reaction b').delivery :=
  ⟨Frame.outgoing?_congr (Frame.holds_write _ hb) (Frame.holds_write _ hb) hr,
    Frame.delivery_congr (Frame.holds_write _ hb) (Frame.holds_write _ hb) hr⟩

end Host

/-- **Polling keeps nothing between frames**: with applications that go by their requests, and
whichever sends fail, each pending frame has the same turns and the same answer as it has alone. -/
theorem poll_stateless (h : Host (FaultyDevice MemoryDevice)) {queue : List Bytes}
    (hqueue : h.device.Pending queue) (hne : ∀ b ∈ queue, b ≠ [])
    (hr : h.handlers.Stateless) :
    h.poll.1 = queue.length ∧
      h.poll.2.deliveries =
        h.deliveries ++
          queue.flatMap (fun b => (Host.alone h.settings h.handlers b).poll.2.deliveries) ∧
      h.poll.2.device.inner.sent =
        h.device.inner.sent ++ h.device.sendPlan.passing
          (queue.flatMap fun b => (Host.alone h.settings h.handlers b).poll.2.device.sent) := by
  induction queue generalizing h with
  | nil =>
    have hdrained : (Device.receive frameSize h.device).1 = .ok [] := by
      rw [hqueue.receive_eq]
      rfl
    rw [h.poll_of_drained hdrained, hqueue.receive_eq]
    exact ⟨rfl, (List.append_nil _).symm, (List.append_nil _).symm⟩
  | cons b queue ih =>
    have hb : b ≠ [] := hne b List.mem_cons_self
    have hlen : (b.take frameSize).length ≤ frameSize := List.length_take_le _ _
    have hreceived : (Device.receive frameSize h.device).1 = .ok (b.take frameSize) := by
      rw [hqueue.receive_eq]
      rfl
    obtain ⟨log, h', hh', hpoll⟩ :=
      h.poll_of_received (Host.take_frameSize_ne_nil hb) hreceived
    obtain ⟨hout, hdelivery⟩ := h.reaction_eq_alone (b := b) hr hlen
    obtain ⟨hdeliveries, hsent⟩ :=
      Host.poll_alone (s := h.settings) (r := h.handlers) hb
    have hpending : h'.device.Pending queue := by
      rw [hh']
      exact hqueue.tail.handed _
    have hdevice := hqueue.tail.handed_eq (h.reaction (b.take frameSize)).outgoing?
    obtain ⟨hcount, hturns, hanswers⟩ :=
      ih h' hpending (fun b hb => hne b (List.mem_cons_of_mem _ hb)) (by rw [hh']; exact hr)
    rw [hpoll, hcount, hturns, hanswers, hh']
    refine ⟨rfl, ?_, ?_⟩
    · rw [List.flatMap_cons, hdeliveries, ← hdelivery, List.append_assoc]
    · dsimp only
      rw [hdevice, hqueue.receive_eq, List.flatMap_cons, hsent, ← hout, FaultPlan.passing_append,
        ← List.append_assoc]
      rfl

/-! ### A host that echoes, once it can send -/

lemma Handler.stateless_echo : Handler.echo.Stateless where
  respond_eq hrequest _ _ _ _ := by simp [Handler.echo, hrequest]
  inPlace hn := by simp [Handler.echo] at hn

lemma stateless_echoing : (Host.echoing []).handlers.Stateless where
  tcp hh := by cases hh
  udp := by
    intro port handler hh
    have hget : ((PortMap.empty.insert 7 Handler.echo).get? port).or none = some handler := hh
    rw [PortMap.get?_insert] at hget
    split at hget
    · cases hget
      exact Handler.stateless_echo
    · cases hget

/-- A host with frames pending that cannot send the first of its answers. -/
def Host.stalled (queue : List Bytes) : Host (FaultyDevice MemoryDevice) :=
  { Host.new { inner := { queue }, sendPlan := ({} : FaultPlan).failAfter 0 "no carrier" } {} with
    handlers := (Host.echoing []).handlers }

/-- Of two datagrams that are alike, the second is echoed as it would be alone. -/
theorem poll_stateless_oddDatagram : ∃ reply,
    (Host.alone {} (Host.echoing []).handlers oddDatagram).poll.2.device.sent = [reply] ∧
      (Host.stalled [oddDatagram, oddDatagram]).poll.1 = 2 ∧
      (Host.stalled [oddDatagram, oddDatagram]).poll.2.device.inner.sent = [reply] := by
  have hne : ∀ b ∈ [oddDatagram, oddDatagram], b ≠ [] := by decide
  obtain ⟨hcount, -, hsent⟩ := poll_stateless (Host.stalled [oddDatagram, oddDatagram])
    ⟨rfl, rfl, fun _ => rfl⟩ hne stateless_echoing
  have halone := (Host.poll_alone (s := {}) (r := (Host.echoing []).handlers)
    (hne _ List.mem_cons_self)).2
  have hout : (((Host.alone {} (Host.echoing []).handlers oddDatagram).reaction
      (oddDatagram.take frameSize)).outgoing?).isSome := by decide +kernel
  obtain ⟨reply, hreply⟩ := Option.isSome_iff_exists.1 hout
  rw [hreply] at halone
  refine ⟨reply, halone, hcount, ?_⟩
  rw [hsent]
  show [] ++ FaultPlan.passing _ ([oddDatagram, oddDatagram].flatMap fun b =>
    (Host.alone {} (Host.echoing []).handlers b).poll.2.device.sent) = [reply]
  simp only [List.flatMap_cons, List.flatMap_nil, halone]
  rfl

end PacketHost
