import PacketHost.Proofs.Guarded.Tasks

/-!
Any number of operations, none of them out of range.

An operation leaves a host on which the next one can be done. How the device behaves, what a peer
sends, what is in the buffer and what the counters stand at make no difference. Only an application
can end a run, by a write of its own past the region that it is offered in a turn: which turns it is
offered follows from what it is registered for (`Binding.Serves`), and nothing but a registration
changes what is registered. The host records every turn, so that it can be told in which one it was.
-/

namespace PacketHost

/-- What can be done with a host. -/
inductive Operation (δ : Type)
  /-- Something happens to the device: frames are pushed, or a call is made to fail. -/
  | device (change : δ → δ)
  | register (handler : Handler) (binding : Binding)
  | poll
  | udpSend (data : Bytes)
  | tcpSend (data : Bytes)
  | resolve (ip : Ipv4Addr) (budget : Nat)
  | ping (ip : Ipv4Addr) (budget : Nat)
  | resolveName (server : Ipv4Addr) (name : String) (budget : Nat)

/-- What an operation gives. -/
inductive Outcome
  | done
  | polled (count : Nat)
  | sent (result : Except NetError Unit)
  | resolved (result : Except NetError MacAddr)
  | echoed (result : Except NetError Nat)
  | named (result : Except NetError NameAnswer)

/-- The turns that an application is given for a registration. -/
def Binding.Serves : Binding → Call → Prop
  | .tcp port _, c => c.OfSegment ∧ c.localPort = port
  | .defaultTcp, c => c.OfSegment
  | .udp port, c => c.OfDatagram ∧ c.localPort = port
  | .defaultUdp, c => c.OfDatagram

namespace Handler

/-- In none of the turns that it is given for the registration does the application write where it
must not. -/
def InRange (h : Handler) (b : Binding) : Prop :=
  ∀ (turn : Nat) (f : Frame) (c : Call), b.Serves c →
    ∀ a ∈ h.respond turn (f.exchange c), a.InRange (f.exchange c).capacity

/-- It does in this turn of them, which has been recorded like this. -/
def StraysIn (h : Handler) (b : Binding) (turn : Nat) (d : Delivery) (fault : Fault) : Prop :=
  ∃ (f : Frame) (c : Call), b.Serves c ∧ d = (f.exchange c).delivery turn h ∧
    h.StraysOn turn (f.exchange c) fault

lemma InRange.not_straysIn {h : Handler} {b : Binding} {turn : Nat} {d : Delivery} {fault : Fault}
    (hh : h.InRange b) : ¬ h.StraysIn b turn d fault := by
  rintro ⟨f, c, hc, -, a, ha, hstray⟩
  exact (hh turn f c hc a ha).not_strays hstray

end Handler

namespace Operation

variable {δ : Type}

/-- If an application is registered, it stays within the regions that it is offered. -/
def InRange : Operation δ → Prop
  | .register handler binding => handler.InRange binding
  | _ => True

/-- An application is registered that writes past its region in this turn. -/
def StraysIn : Operation δ → Nat → Delivery → Fault → Prop
  | .register handler binding, turn, d, fault => handler.StraysIn binding turn d fault
  | _, _, _, _ => False

lemma InRange.not_straysIn {op : Operation δ} {turn : Nat} {d : Delivery} {fault : Fault}
    (h : op.InRange) : ¬ op.StraysIn turn d fault := by
  cases op with
  | register handler binding => exact Handler.InRange.not_straysIn h
  | _ => exact id

end Operation

namespace Registry

variable {r : Registry} {handler : Handler} {binding : Binding} {turn : Nat} {d : Delivery}
  {fault : Fault}

lemma eq_or_of_or_some {found? default? : Option Handler} {g : Handler}
    (h : found?.or (some handler) = some g) : g = handler ∨ found?.or default? = some g := by
  cases found? with
  | none => exact .inl (Option.some.inj h).symm
  | some a => exact .inr h

/-- A turn that is offered after a registration is one for it, or was offered before. -/
lemma offers_register {c : Call} (h : (r.register handler binding).Offers c) :
    (c.handler = handler ∧ binding.Serves c) ∨ r.Offers c := by
  cases h with
  | datagram hc hh =>
    cases binding with
    | tcp port route => exact .inr (.datagram hc hh)
    | defaultTcp => exact .inr (.datagram hc hh)
    | udp port =>
      simp only [register, udpHandler?, PortMap.get?_insert] at hh
      split at hh
      next hport => exact .inl ⟨(Option.some.inj hh).symm, hc, hport⟩
      next => exact .inr (.datagram hc hh)
    | defaultUdp => exact (eq_or_of_or_some hh).imp (⟨·, hc⟩) (.datagram hc)
  | segment hc hh =>
    cases binding with
    | tcp port route =>
      simp only [register, tcpHandler?, PortMap.get?_insert] at hh
      split at hh
      next hport => exact .inl ⟨(Option.some.inj hh).symm, hc, hport⟩
      next => exact .inr (.segment hc hh)
    | defaultTcp => exact (eq_or_of_or_some hh).imp (⟨·, hc⟩) (.segment hc)
    | udp port => exact .inr (.segment hc hh)
    | defaultUdp => exact .inr (.segment hc hh)

lemma straysIn_register (h : (r.register handler binding).StraysIn turn d fault) :
    handler.StraysIn binding turn d fault ∨ r.StraysIn turn d fault := by
  obtain ⟨f, c, hc, hd, hstray⟩ := h
  rcases offers_register hc with ⟨rfl, hserves⟩ | hc
  · exact .inl ⟨f, c, hserves, hd, hstray⟩
  · exact .inr ⟨f, c, hc, hd, hstray⟩

lemma not_straysIn_empty : ¬ ({} : Registry).StraysIn turn d fault := by
  rintro ⟨f, c, hc, -⟩
  rcases hc with ⟨-, hh⟩ | ⟨-, hh⟩
  · cases hh
  · cases hh

end Registry

namespace Host

variable {δ : Type} [FiniteDevice δ]

def operate (h : Host δ) : Operation δ → Outcome × Host δ
  | .device change => (.done, { h with device := change h.device })
  | .register handler binding => (.done, h.register handler binding)
  | .poll => (.polled h.poll.1, h.poll.2)
  | .udpSend data => Prod.map .sent id (udpSend data h)
  | .tcpSend data => Prod.map .sent id (tcpSend data h)
  | .resolve ip budget => Prod.map .resolved id (resolve ip budget h)
  | .ping ip budget => Prod.map .echoed id (ping ip budget h)
  | .resolveName server name budget => Prod.map .named id (resolveName server name budget h)

/-- The outcomes of operations one after the other, and the host after the last. -/
def run (h : Host δ) : List (Operation δ) → List Outcome × Host δ
  | [] => ([], h)
  | op :: ops =>
    let first := h.operate op
    let rest := first.2.run ops
    (first.1 :: rest.1, rest.2)

end Host

namespace Guarded

/-- A task that runs has the same outcome. -/
lemma outcome_eq {δ α : Type} {g : Step δ α} {t : Task δ α} {h : Host δ} (hruns : Runs g t h)
    (outcome : Except NetError α → Outcome) :
    (do return Prod.map outcome id (← g h)) =
      (pure (Prod.map outcome id (t h)) : Guarded (Outcome × Host δ)) := by
  rw [hruns.eq, pure_bind]

variable {δ : Type} [FiniteDevice δ]

def operate (h : Host δ) : Operation δ → Guarded (Outcome × Host δ)
  | .device change => pure (.done, { h with device := change h.device })
  | .register handler binding => pure (.done, h.register handler binding)
  | .poll => do return Prod.map .polled id (← poll h)
  | .udpSend data => do return Prod.map .sent id (← udpSend data h)
  | .tcpSend data => do return Prod.map .sent id (← tcpSend data h)
  | .resolve ip budget => do return Prod.map .resolved id (← resolve ip budget h)
  | .ping ip budget => do return Prod.map .echoed id (← ping ip budget h)
  | .resolveName server name budget => do
    return Prod.map .named id (← resolveName server name budget h)

def run (h : Host δ) : List (Operation δ) → Guarded (List Outcome × Host δ)
  | [] => pure ([], h)
  | op :: ops => do
    let (outcome, h) ← operate h op
    let (outcomes, h) ← run h ops
    return (outcome :: outcomes, h)

/-- One operation. Only in a poll do the applications have their turns. -/
lemma operate_eqUpTo (h : Host δ) (op : Operation δ) :
    EqUpTo (h.handlers.Strayed (h.operate op).2.deliveries) (operate h op) (h.operate op) := by
  cases op with
  | device change => exact .of_eq rfl
  | register handler binding => exact .of_eq rfl
  | poll => exact (poll_eqUpTo h).bind (.of_eq rfl)
  | udpSend data => exact .of_eq (outcome_eq (runs_udpSend h data) .sent)
  | tcpSend data => exact .of_eq (outcome_eq (runs_tcpSend h data) .sent)
  | resolve ip budget => exact .of_eq (outcome_eq (runs_resolve h ip budget) .resolved)
  | ping ip budget => exact .of_eq (outcome_eq (runs_ping h ip budget) .echoed)
  | resolveName server name budget =>
    exact .of_eq (outcome_eq (runs_resolveName h server name budget) .named)

/-- Nothing but a registration changes what is registered, and no operation forgets a turn. -/
lemma service_operate (h : Host δ) (op : Operation δ) :
    ((h.operate op).2.handlers = h.handlers ∨
        ∃ handler binding, op = .register handler binding) ∧
      h.deliveries <+: (h.operate op).2.deliveries := by
  have hkept {α : Type} {g : Step δ α} {t : Task δ α} (hruns : Runs g t h) :
      ((t h).2.handlers = h.handlers ∨ ∃ handler binding, op = .register handler binding) ∧
        h.deliveries <+: (t h).2.deliveries :=
    ⟨.inl hruns.handlers, hruns.isPrefix⟩
  cases op with
  | device change => exact ⟨.inl rfl, List.prefix_rfl⟩
  | register handler binding => exact ⟨.inr ⟨handler, binding, rfl⟩, List.prefix_rfl⟩
  | poll => exact ⟨.inl h.service_poll.1, h.service_poll.2⟩
  | udpSend data => exact hkept (runs_udpSend h data)
  | tcpSend data => exact hkept (runs_tcpSend h data)
  | resolve ip budget => exact hkept (runs_resolve h ip budget)
  | ping ip budget => exact hkept (runs_ping h ip budget)
  | resolveName server name budget => exact hkept (runs_resolveName h server name budget)

lemma straysIn_operate {h : Host δ} {op : Operation δ} {turn : Nat} {d : Delivery} {fault : Fault}
    (hs : (h.operate op).2.handlers.StraysIn turn d fault) :
    op.StraysIn turn d fault ∨ h.handlers.StraysIn turn d fault := by
  obtain ⟨hsame | ⟨handler, binding, rfl⟩, -⟩ := service_operate h op
  · exact .inr (hsame ▸ hs)
  · exact Registry.straysIn_register hs

lemma deliveries_run (h : Host δ) (ops : List (Operation δ)) :
    h.deliveries <+: (h.run ops).2.deliveries := by
  induction ops generalizing h with
  | nil => exact List.prefix_rfl
  | cons op ops ih => exact (service_operate h op).2.trans (ih (h.operate op).2)

/-- Any number of operations. Who strays is registered with the host, or by one of them. -/
lemma run_eqUpTo {strays : Nat → Delivery → Fault → Prop} {h : Host δ} {ops : List (Operation δ)}
    (hr : ∀ turn d fault, h.handlers.StraysIn turn d fault → strays turn d fault)
    (hops : ∀ op ∈ ops, ∀ turn d fault, op.StraysIn turn d fault → strays turn d fault) :
    EqUpTo (fun fault => ∃ turn d, (h.run ops).2.deliveries[turn]? = some d ∧ strays turn d fault)
      (run h ops) (h.run ops) := by
  induction ops generalizing h with
  | nil => exact .of_eq rfl
  | cons op ops ih =>
    refine ((operate_eqUpTo h op).mono ?first).bind ((ih ?registered ?later).bind (.of_eq rfl))
    case first =>
      intro fault hstrayed
      obtain ⟨turn, d, hd, hstray⟩ := hstrayed.mono (deliveries_run (h.operate op).2 ops)
      exact ⟨turn, d, hd, hr turn d fault hstray⟩
    case registered =>
      intro turn d fault hstray
      rcases straysIn_operate hstray with hstray | hstray
      · exact hops op List.mem_cons_self turn d fault hstray
      · exact hr turn d fault hstray
    case later => exact fun o ho => hops o (List.mem_cons_of_mem op ho)

end Guarded

/-- **No operation goes out of range**: from a new host on, whatever is done with it, on whatever
device and in whatever order, no part of a string is taken that is not inside it, no difference is
below zero, no length is cut to fit its field and no sum overflows. The operations with all of these
checks are the operations, if each application stays within the regions that it is offered for its
registration. Without that condition, there is no fault but an application's own write past the
capacity, in a turn that the host has given it. -/
theorem operations_inRange {δ : Type} [FiniteDevice δ] (device : δ) (settings : Settings)
    (ops : List (Operation δ)) :
    let plain := (Host.new device settings).run ops
    ((∀ op ∈ ops, op.InRange) → Guarded.run (Host.new device settings) ops = .ok plain) ∧
    (Guarded.run (Host.new device settings) ops = .ok plain ∨
      ∃ turn d fault, plain.2.deliveries[turn]? = some d ∧ (∃ op ∈ ops, op.StraysIn turn d fault) ∧
        Guarded.run (Host.new device settings) ops = .error fault) := by
  intro plain
  have hrun : Guarded.EqUpTo (fun fault => ∃ turn d, plain.2.deliveries[turn]? = some d ∧
      ∃ op ∈ ops, op.StraysIn turn d fault) (Guarded.run (Host.new device settings) ops) plain :=
    Guarded.run_eqUpTo (fun _ _ _ hs => absurd hs Registry.not_straysIn_empty)
      fun op hop _ _ _ hs => ⟨op, hop, hs⟩
  constructor
  · intro hops
    refine hrun.eq ?_
    rintro fault ⟨turn, d, -, op, hop, hs⟩
    exact (hops op hop).not_straysIn hs
  · rcases hrun with hrun | ⟨fault, ⟨turn, d, hd, hs⟩, hrun⟩
    · exact .inl hrun
    · exact .inr ⟨turn, d, fault, hd, hs, hrun⟩

/-! ### A session -/

lemma Call.OfDatagram.le_capacity {c : Call} (h : c.OfDatagram) : 1419 ≤ c.capacity := by
  rw [Call.capacity, h]
  decide

/-- The least room is behind a header with the most options. -/
lemma Call.OfSegment.le_capacity {c : Call} (h : c.OfSegment) : 1419 ≤ c.capacity := by
  obtain ⟨tcp, -, hstart⟩ := h
  have hmax := tcp.dataOffset_le
  rw [Call.capacity, hstart]
  show 1419 ≤ 1514 - (34 + tcp.dataOffset) - 1
  omega

lemma Binding.Serves.le_capacity {b : Binding} {c : Call} (h : b.Serves c) : 1419 ≤ c.capacity := by
  cases b with
  | tcp port route => exact h.1.le_capacity
  | defaultTcp => exact Call.OfSegment.le_capacity h
  | udp port => exact h.1.le_capacity
  | defaultUdp => exact Call.OfDatagram.le_capacity h

/-- An application that writes `OK` over whatever it is asked. -/
def Handler.saysOk : Handler := ⟨"ok", fun _ _ => [.write 0 [0x4f, 0x4b], .replyInPlace 2]⟩

/-- There is room for that in every turn that can be given. -/
lemma Handler.inRange_saysOk (b : Binding) : Handler.saysOk.InRange b := by
  intro turn f c hc a ha
  have hroom := hc.le_capacity
  rw [f.capacity_exchange]
  simp only [Handler.saysOk, List.mem_cons, List.not_mem_nil, or_false] at ha
  rcases ha with rfl | rfl
  · exact Nat.le_trans (by decide) hroom
  · trivial

/-- The application is registered, a datagram for it arrives, and the host polls. -/
def Operation.session : List (Operation MemoryDevice) :=
  [.register .saysOk (.udp 7), .device (·.push [oddDatagram]), .poll]

/-- The application is given the datagram, and its answer goes out. -/
lemma run_session : ∃ last, (Host.new {} {}).run Operation.session =
    ([.done, .done, .polled 1], last) ∧ last.device.sent.length = 1 := by
  let host : Host MemoryDevice := (Host.new { queue := [oddDatagram] } {}).register .saysOk (.udp 7)
  have hb : oddDatagram ≠ [] := by decide
  obtain ⟨log, hpoll⟩ := host.poll_single hb rfl rfl
  have hrun : (Host.new {} {}).run Operation.session =
      ([.done, .done, .polled host.poll.1], host.poll.2) :=
    rfl
  have hsent : (host.reaction (oddDatagram.take frameSize)).outgoing?.toList.length = 1 := by
    decide +kernel
  rw [hrun, hpoll]
  refine ⟨_, rfl, ?_⟩
  rw [List.length_append, hsent]
  rfl

theorem operations_inRange_session :
    Guarded.run (Host.new {} {}) Operation.session = .ok ((Host.new {} {}).run Operation.session) ∧
      ∃ last, (Host.new {} {}).run Operation.session = ([.done, .done, .polled 1], last) ∧
        last.device.sent.length = 1 := by
  refine ⟨(operations_inRange {} {} Operation.session).1 ?_, run_session⟩
  intro op hop
  simp only [Operation.session, List.mem_cons, List.not_mem_nil, or_false] at hop
  rcases hop with rfl | rfl | rfl
  · exact Handler.inRange_saysOk _
  · trivial
  · trivial

end PacketHost
