import PacketHost.Proofs.Draining
import PacketHost.Proofs.Guarded.Inquiries
import PacketHost.Proofs.Waiting

/-!
What a host does, guarded.

The buffer is looked at in reactions, in requests and in what is waited for; the rest of a task only
moves things between the device, the buffer and the host's counters. `Runs g t h` says that on the
host `h` the guarded task `g` ends without a fault and just as the task `t` does, and that no
application has a turn in it. It is kept by doing one thing after the other, which is all that tasks
are made of. Applications have their turns in a poll, so a poll is the same up to what they do in
them.
-/

namespace PacketHost

namespace Host

variable {δ : Type}

/-- Who answers for the host, and the turns that it has given. -/
def service (h : Host δ) : Registry × List Delivery := (h.handlers, h.deliveries)

lemma service_of_receive [Device δ] {h h' : Host δ} {result : Except String Bytes}
    (hr : h.receive = (result, h')) : h'.service = h.service := by
  have hsame : h.receive.2.service = h.service := by
    unfold receive
    dsimp only
    split <;> rfl
  rwa [hr] at hsame

lemma service_finish [Device δ] (h : Host δ) (p : Prepared) :
    (finish p h).2.service = h.service := by
  rw [finish_eq]
  rfl

lemma service_carryOut [Device δ] (h : Host δ) (x : Reaction) :
    (h.carryOut x).service = (h.handlers, h.deliveries ++ x.delivery.toList) := by
  obtain ⟨log, hcarry⟩ := h.carryOut_eq x
  rw [hcarry]
  rfl

/-- A poll leaves the applications as they are, and no turn is forgotten. -/
lemma service_poll [FiniteDevice δ] (h : Host δ) :
    h.poll.2.handlers = h.handlers ∧ h.deliveries <+: h.poll.2.deliveries := by
  induction h using Host.poll.induct with
  | case1 h reason h' hcall =>
    obtain ⟨hhandlers, hdeliveries⟩ := Prod.ext_iff.1 (service_of_receive hcall)
    rw [h.poll_of_error hcall]
    exact ⟨hhandlers, [], (List.append_nil _).trans hdeliveries.symm⟩
  | case2 h h' hcall =>
    obtain ⟨hhandlers, hdeliveries⟩ := Prod.ext_iff.1 (service_of_receive hcall)
    rw [h.poll_of_empty hcall]
    exact ⟨hhandlers, [], (List.append_nil _).trans hdeliveries.symm⟩
  | case3 h x b h' hcall ih =>
    obtain ⟨hhandlers, hdeliveries⟩ := Prod.ext_iff.1 (service_of_receive hcall)
    obtain ⟨hkept, hmore⟩ := Prod.ext_iff.1 (h'.service_carryOut
      (h'.frame.react h'.settings h'.handlers h'.deliveries.length (b.length + 1)))
    obtain ⟨hlast, hrest⟩ := ih
    rw [h.poll_of_frame (List.cons_ne_nil x b) hcall]
    refine ⟨hlast.trans (hkept.trans hhandlers), List.IsPrefix.trans ?_ hrest⟩
    exact ⟨_, (hmore.trans (congrArg (· ++ _) hdeliveries)).symm⟩

/-- The device is no further from its end when a reaction has been carried out. -/
lemma rank_carryOut [FiniteDevice δ] (h : Host δ) (x : Reaction) :
    FiniteDevice.rank (h.carryOut x).device = FiniteDevice.rank h.device ∨
      RankLt (FiniteDevice.rank (h.carryOut x).device) (FiniteDevice.rank h.device) := by
  rcases h.device_carryOut x with he | ⟨b, he⟩
  · exact .inl (by rw [he])
  · rw [he]
    exact FiniteDevice.rank_send b h.device

end Host

namespace Guarded

open Host

variable {δ : Type}

/-! ### Reacting to what is received -/

section Polling

def dispatch [Device δ] (h : Host δ) (len : Nat) : Guarded (Host δ) := do
  return h.carryOut (← react h.settings h.handlers h.deliveries.length h.frame len)

lemma rank_dispatch [FiniteDevice δ] {h h' : Host δ} {len : Nat}
    (hd : dispatch h len = .ok h') :
    FiniteDevice.rank h'.device = FiniteDevice.rank h.device ∨
      RankLt (FiniteDevice.rank h'.device) (FiniteDevice.rank h.device) := by
  unfold dispatch at hd
  generalize react h.settings h.handlers h.deliveries.length h.frame len = reaction at hd
  cases reaction with
  | error fault => cases hd
  | ok x =>
    cases hd
    exact h.rank_carryOut x

def poll [FiniteDevice δ] (h : Host δ) : Guarded (Nat × Host δ) :=
  match _ : h.receive with
  | (.error reason, h') => pure (0, h'.note (.receiveFailed reason))
  | (.ok [], h') => pure (0, h')
  | (.ok (_ :: b), h') =>
    match hd : dispatch h' (b.length + 1) with
    | .error fault => throw fault
    | .ok next => do
      let rest ← poll next
      return (rest.1 + 1, rest.2)
termination_by FiniteDevice.rank h.device
decreasing_by
  have hl : RankLt (FiniteDevice.rank h'.device) (FiniteDevice.rank h.device) := by
    have hdevice := device_of_receive ‹h.receive = _›
    have hrank := FiniteDevice.rank_receive (congrArg Prod.fst hdevice)
    rwa [hdevice] at hrank
  rcases rank_dispatch hd with he | he
  · rw [he]
    exact hl
  · exact he.trans hl

/-- A reaction that stops short stops in the turn that is recorded next. -/
lemma dispatch_eqUpTo [Device δ] (h : Host δ) {len : Nat} (hlen : len ≤ frameSize) :
    EqUpTo (h.handlers.Strayed (h.dispatch len).deliveries) (dispatch h len) (h.dispatch len) := by
  refine ((react_reactsAs hlen).mono ?_).bind (.of_eq rfl)
  rintro fault ⟨d, hd, hstray⟩
  have hmore : (h.dispatch len).deliveries = h.deliveries ++ [d] := by
    rw [← Option.toList_some, ← hd]
    exact congrArg Prod.snd (h.service_carryOut _)
  refine ⟨h.deliveries.length, d, ?_, hstray⟩
  rw [hmore, List.getElem?_concat_length]

section Equations

variable [FiniteDevice δ] {h h' : Host δ} {reason : String} {x : UInt8} {b : Bytes}

lemma poll_of_error (hcall : h.receive = (.error reason, h')) :
    poll h = pure (0, h'.note (.receiveFailed reason)) := by
  rw [poll]
  split
  next heq => rw [hcall] at heq; cases heq; rfl
  next heq => rw [hcall] at heq; cases heq
  next heq => rw [hcall] at heq; cases heq

lemma poll_of_empty (hcall : h.receive = (.ok [], h')) : poll h = pure (0, h') := by
  rw [poll]
  split
  next heq => rw [hcall] at heq; cases heq
  next heq => rw [hcall] at heq; cases heq; rfl
  next heq => rw [hcall] at heq; cases heq

lemma poll_of_frame (hcall : h.receive = (.ok (x :: b), h')) :
    poll h = (do
      let next ← dispatch h' (b.length + 1)
      let rest ← poll next
      return (rest.1 + 1, rest.2)) := by
  rw [poll]
  split
  next heq => rw [hcall] at heq; cases heq
  next heq => rw [hcall] at heq; cases heq
  next heq =>
    rw [hcall] at heq
    cases heq
    split
    next hd => rw [hd]; rfl
    next hd => rw [hd]; rfl

end Equations

/-- The applications stay the same, so every frame of a poll is reacted to in range. -/
lemma poll_eqUpTo [FiniteDevice δ] (h : Host δ) :
    EqUpTo (h.handlers.Strayed h.poll.2.deliveries) (poll h) h.poll := by
  induction h using Host.poll.induct with
  | case1 h reason h' hcall =>
    rw [h.poll_of_error hcall, poll_of_error hcall]
    exact .of_eq rfl
  | case2 h h' hcall =>
    rw [h.poll_of_empty hcall, poll_of_empty hcall]
    exact .of_eq rfl
  | case3 h x b h' hcall ih =>
    have hsame : h'.handlers = h.handlers := congrArg Prod.fst (service_of_receive hcall)
    have hlen : b.length + 1 ≤ frameSize :=
      Device.length_le_of_receive (congrArg Prod.fst (device_of_receive hcall))
    have hkept : (h'.dispatch (b.length + 1)).handlers = h.handlers :=
      (congrArg Prod.fst (h'.service_carryOut _)).trans hsame
    -- the turn is among those that have been given when the poll is over
    have hdispatch := (dispatch_eqUpTo h' hlen).mono
      fun fault => Registry.Strayed.mono (h'.dispatch (b.length + 1)).service_poll.2
    rw [hsame] at hdispatch
    rw [hkept] at ih
    rw [h.poll_of_frame (List.cons_ne_nil x b) hcall, poll_of_frame hcall]
    exact hdispatch.bind (ih.bind (.of_eq rfl))

end Polling

/-! ### Waiting -/

/-- Waits with `left` polls to go of `budget`, and looks at what has been received in the buffer. -/
def waitLoop [Device δ] {α : Type} (accept? : Bytes → Guarded (Option α)) (budget : Nat) :
    Nat → Bool → Host δ → Guarded (Except NetError (α × Nat) × Host δ)
  | 0, seen, h => pure (.error (if seen then .timeout budget else .noReply budget), h)
  | left + 1, seen, h =>
    match h.receive with
    | (.error reason, h) => pure (.error (.device reason), h)
    | (.ok [], h) => waitLoop accept? budget left seen h
    | (.ok (x :: b), h) => do
      match ← accept? (← part h.frame 0 (x :: b).length) with
      | some a => return (.ok (a, budget - left), h)
      | none => waitLoop accept? budget left true (h.note .unmatched)

section Waiting

variable [Device δ] {α : Type} {accept? : Bytes → Option α} {guarded? : Bytes → Guarded (Option α)}
  {budget left : Nat}

/-- The buffer holds what has been received. -/
lemma holds_of_receive {h h' : Host δ} {b : Bytes} (hr : h.receive = (.ok b, h')) :
    h'.frame.Holds b := by
  have hlen : b.length ≤ frameSize :=
    Device.length_le_of_receive (congrArg Prod.fst (device_of_receive hr))
  rw [h.receive_of_ok b (congrArg Prod.fst (device_of_receive hr))] at hr
  cases hr
  exact Frame.holds_write _ hlen

lemma waitLoop_eq (hguarded : ∀ b, guarded? b = pure (accept? b)) (seen : Bool) (h : Host δ) :
    waitLoop guarded? budget left seen h = pure (Host.waitLoop accept? budget left seen h) := by
  induction left generalizing seen h with
  | zero => rfl
  | succ left ih =>
    unfold waitLoop Host.waitLoop
    rcases hr : h.receive with ⟨reason | (- | ⟨x, b⟩), h'⟩
    · rfl
    · exact ih seen h'
    · have hholds := holds_of_receive hr
      have hreceived : h'.frame.slice 0 (x :: b).length = x :: b := by
        rw [hholds.slice_eq (Nat.le_refl _)]
        exact List.take_length
      dsimp only
      rw [part_eq (Nat.zero_le _) hholds.length_le, pure_bind, hreceived, hguarded, pure_bind]
      cases accept? (x :: b) with
      | some a => rfl
      | none => exact ih true _

lemma service_waitLoop (seen : Bool) (h : Host δ) :
    (Host.waitLoop accept? budget left seen h).2.service = h.service := by
  induction left generalizing seen h with
  | zero => rfl
  | succ left ih =>
    unfold Host.waitLoop
    rcases hr : h.receive with ⟨reason | (- | ⟨x, b⟩), h'⟩
    · exact service_of_receive hr
    · exact (ih seen h').trans (service_of_receive hr)
    · have hsame := service_of_receive hr
      dsimp only
      cases accept? (x :: b) with
      | some a => exact hsame
      | none => exact (ih true _).trans hsame

/-- What a wait ends with was accepted, and was received. -/
lemma accepted_of_waitLoop {seen : Bool} {h h' : Host δ} {a : α} {n : Nat}
    (hw : Host.waitLoop accept? budget left seen h = (.ok (a, n), h')) :
    ∃ b, accept? b = some a ∧ b.length ≤ frameSize := by
  induction left generalizing seen h with
  | zero => cases hw
  | succ left ih =>
    unfold Host.waitLoop at hw
    rcases hr : h.receive with ⟨reason | (- | ⟨x, b⟩), h₁⟩
    · rw [hr] at hw
      cases hw
    · rw [hr] at hw
      exact ih hw
    · rw [hr] at hw
      dsimp only at hw
      cases ha : accept? (x :: b) with
      | some a' =>
        rw [ha] at hw
        cases hw
        exact ⟨x :: b, ha, (holds_of_receive hr).length_le⟩
      | none =>
        rw [ha] at hw
        exact ih hw

end Waiting

/-! ### Tasks -/

/-- What a host does step by step, up to the first error or fault. -/
abbrev Step (δ : Type) := ExceptT NetError (StateT (Host δ) Guarded)

/-- Steps that do not look at any byte. -/
def unguarded {α : Type} (t : Task δ α) : Step δ α := fun h => pure (t h)

/-- Without a fault, the same as the task, and without a turn. -/
structure Runs {α : Type} (g : Step δ α) (t : Task δ α) (h : Host δ) : Prop where
  eq : g h = pure (t h)
  service : (t h).2.service = h.service

namespace Runs

variable {α β : Type} {g : Step δ α} {t : Task δ α} {k : α → Step δ β} {u : α → Task δ β}
  {h : Host δ}

lemma handlers (hg : Runs g t h) : (t h).2.handlers = h.handlers := congrArg Prod.fst hg.service

lemma isPrefix (hg : Runs g t h) : h.deliveries <+: (t h).2.deliveries :=
  ⟨[], (List.append_nil _).trans (congrArg Prod.snd hg.service).symm⟩

lemma bind (hg : Runs g t h) (hk : ∀ a h', t h = (.ok a, h') → Runs (k a) (u a) h') :
    Runs (g >>= k) (t >>= u) h := by
  obtain ⟨heq, hsame⟩ := hg
  have hbind : (g >>= k) h = g h >>= fun r =>
      match r with
      | (.ok a, h') => k a h'
      | (.error e, h') => pure (.error e, h') := by
    show (g h >>= fun r => ExceptT.bindCont k r.1 r.2) = _
    congr 1
    funext ⟨r, h'⟩
    cases r <;> rfl
  rcases ht : t h with ⟨e | a, h'⟩
  · rw [ht] at heq hsame
    constructor
    · rw [hbind, heq, pure_bind, Task.bind_apply, ht]
    · rw [Task.bind_apply, ht]
      exact hsame
  · have hrest := hk a h' ht
    rw [ht] at heq hsame
    constructor
    · rw [hbind, heq, pure_bind, Task.bind_apply, ht]
      exact hrest.eq
    · rw [Task.bind_apply, ht]
      exact hrest.service.trans hsame

lemma of_unguarded (hsame : (t h).2.service = h.service) : Runs (unguarded t) t h := ⟨rfl, hsame⟩

lemma pure (a : α) : Runs (Pure.pure a : Step δ α) (Pure.pure a) h := ⟨rfl, rfl⟩

/-- Looking at the host, before the guarded task or before the task. -/
lemma get_left {g : Host δ → Step δ α} (hg : Runs (g h) t h) : Runs (get >>= g) t h :=
  ⟨hg.eq, hg.service⟩

lemma get_right {t : Host δ → Task δ α} (hg : Runs g (t h) h) : Runs g (get >>= t) h :=
  ⟨hg.eq, hg.service⟩

/-- A guarded computation that ends without a fault. -/
lemma call {x : Guarded β} {b : β} {g : β → Step δ α} (hx : x = Pure.pure b)
    (hg : Runs (g b) t h) : Runs (liftM x >>= g) t h := by
  subst hx
  exact ⟨hg.eq, hg.service⟩

end Runs

section Tasks

variable [Device δ]

def waitFor {α : Type} (budget : Nat) (accept? : Bytes → Guarded (Option α)) :
    Step δ (α × Nat) :=
  fun h => waitLoop accept? budget budget false h

def udpSend (data : Bytes) : Step δ Unit := do
  let h ← get
  let p ← sendUdp h.settings h.frame data
  unguarded (Host.finish p)

def tcpSend (data : Bytes) : Step δ Unit := do
  let h ← get
  let p ← sendTcp h.settings h.handlers h.frame data
  unguarded (Host.finish p)

def resolve (ip : Ipv4Addr) (budget : Nat) : Step δ MacAddr := do
  let h ← get
  let f ← stageArpRequest h.settings h.frame ip
  unguarded (modify fun h => { h with frame := f })
  -- what is handed to the device
  let _ ← part f 0 (ipOffset + 28)
  unguarded (transmit (ipOffset + 28))
  let (hw, polls) ← waitFor budget (arpAnswer? ip)
  unguarded (modify (·.note (.resolved ip hw polls)))
  return hw

def ping (ip : Ipv4Addr) (budget : Nat) : Step δ Nat := do
  let hw ← resolve ip budget
  unguarded (modify fun h => { h with pingSequence := h.pingSequence + 1 })
  let h ← get
  let f ← stagePacket h.settings h.frame hw IpProtocol.icmp ip h.pingSequence
  let f ← stageEchoRequest f h.settings.pingIdentifier h.pingSequence
  let p ← answerIpv4 h.settings f IpProtocol.icmp (8 + pingPayload.length)
  unguarded (Host.finish p)
  let ((), polls) ← waitFor budget
    (echoAnswer? h.settings.ip ip h.settings.pingIdentifier h.pingSequence)
  unguarded (modify (·.note (.echoed ip polls)))
  return polls

def resolveName (server : Ipv4Addr) (name : String) (budget : Nat) : Step δ NameAnswer := do
  let hw ← resolve server budget
  let h ← get
  let id := h.dnsTransaction
  let f ← stagePacket h.settings h.frame hw IpProtocol.udp server id
  let (length?, staged) ← stageQuery h.settings f id name
  unguarded (modify fun h => { h with dnsTransaction := id + 1, frame := staged })
  let length ← unguarded (liftM length?)
  let p ← answerUdp h.settings staged length
  unguarded (Host.finish p)
  unguarded (modify (·.note (.queried id name server)))
  let (message, polls) ← waitFor budget (dnsAnswer? server h.settings.dnsSourcePort id)
  let off ← unguarded (liftM (Dns.answerOffset message))
  unguarded (modify (·.note (.nameAnswered name polls)))
  let offset := udpDataOffset + off
  let h ← get
  return { offset, address := ← addressAt h.frame offset }

variable (h : Host δ)

lemma runs_waitFor {α : Type} {accept? : Bytes → Option α}
    {guarded? : Bytes → Guarded (Option α)} (hguarded : ∀ b, guarded? b = pure (accept? b))
    (budget : Nat) : Runs (waitFor budget guarded?) (Host.waitFor budget accept?) h :=
  ⟨waitLoop_eq hguarded false h, service_waitLoop false h⟩

lemma runs_udpSend (data : Bytes) : Runs (udpSend data) (Host.udpSend data) h :=
  .get_left (.get_right (.call (sendUdp_eq h.settings data)
    (.of_unguarded (h.service_finish _))))

lemma runs_tcpSend (data : Bytes) : Runs (tcpSend data) (Host.tcpSend data) h :=
  .get_left (.get_right (.call (sendTcp_eq h.settings h.handlers data)
    (.of_unguarded (h.service_finish _))))

lemma runs_resolve (ip : Ipv4Addr) (budget : Nat) :
    Runs (resolve ip budget) (Host.resolve ip budget) h := by
  refine .get_left (.call (stageArpRequest_eq h.settings h.frame ip) ?_)
  refine .bind ⟨rfl, rfl⟩ fun _ h₁ _ => ?_
  refine .call (part_eq (Nat.zero_le _) (by decide)) ?_
  refine .bind (.of_unguarded rfl) fun _ h₂ _ => ?_
  refine .bind (runs_waitFor h₂ (arpAnswer?_eq ip) budget) ?_
  rintro ⟨hw, polls⟩ h₃ -
  exact .bind (.of_unguarded rfl) fun _ h₄ _ => .pure hw

lemma runs_ping (ip : Ipv4Addr) (budget : Nat) :
    Runs (ping ip budget) (Host.ping ip budget) h := by
  refine .bind (runs_resolve h ip budget) fun hw h₁ _ => ?_
  refine .bind (.of_unguarded rfl) fun _ h₂ _ => ?_
  refine .get_left (.get_right ?_)
  refine .call (stagePacket_eq h₂.settings h₂.frame hw IpProtocol.icmp ip h₂.pingSequence) ?_
  refine .call (stageEchoRequest_eq _ h₂.settings.pingIdentifier h₂.pingSequence) ?_
  refine .call (answerIpv4_eq h₂.settings _ IpProtocol.icmp _) ?_
  refine .bind (.of_unguarded (h₂.service_finish _)) fun _ h₃ _ => ?_
  refine .bind (runs_waitFor h₃ (echoAnswer?_eq _ ip _ _) budget) ?_
  rintro ⟨-, polls⟩ h₄ -
  exact .bind (.of_unguarded rfl) fun _ h₅ _ => .pure polls

/-- The address that is found in an answer ends within the frame that the answer came in. -/
lemma address_inRange {server : Ipv4Addr} {port id : UInt16} {message b : Bytes} {off : Nat}
    (hanswer : PacketHost.dnsAnswer? server port id b = some message) (hb : b.length ≤ frameSize)
    (hoff : Dns.answerOffset message = .ok off) : udpDataOffset + off + 4 ≤ frameSize := by
  obtain ⟨-, hmessage⟩ := Received.dnsAnswer?_eq_some.1 hanswer
  have hle : message.length ≤ b.length - 42 := hmessage ▸ Received.length_datagramData_le b
  have hfour := Dns.answerOffset_le hoff
  replace hb : b.length ≤ 1536 := hb
  show 42 + off + 4 ≤ 1536
  omega

lemma runs_resolveName (server : Ipv4Addr) (name : String) (budget : Nat) :
    Runs (resolveName server name budget) (Host.resolveName server name budget) h := by
  refine .bind (runs_resolve h server budget) fun hw h₁ _ => ?_
  refine .get_left (.get_right ?_)
  refine .call (stagePacket_eq h₁.settings h₁.frame hw IpProtocol.udp server h₁.dnsTransaction) ?_
  refine .call (stageQuery_eq h₁.settings _ h₁.dnsTransaction name) ?_
  refine .bind (.of_unguarded rfl) fun _ h₂ _ => ?_
  refine .bind (.of_unguarded rfl) fun len h₃ hlen => ?_
  have hfit : len ≤ 1471 := length_stageQuery _ _ (congrArg Prod.fst hlen)
  refine .call (answerUdp_eq h₁.settings hfit) ?_
  refine .bind (.of_unguarded (h₃.service_finish _)) fun _ h₄ _ => ?_
  refine .bind (.of_unguarded rfl) fun _ h₅ _ => ?_
  refine .bind (runs_waitFor h₅ (dnsAnswer?_eq server _ _) budget) ?_
  rintro ⟨message, polls⟩ h₆ hwait
  obtain ⟨b, hanswer, hb⟩ := accepted_of_waitLoop hwait
  refine .bind (.of_unguarded rfl) fun off h₇ hoff => ?_
  refine .bind (.of_unguarded rfl) fun _ h₈ _ => ?_
  have hin := address_inRange hanswer hb (congrArg Prod.fst hoff)
  exact .get_left (.get_right (.call (addressAt_eq hin) (.pure _)))

end Tasks

end Guarded

end PacketHost
