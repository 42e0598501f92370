import PacketHost.Device
import PacketHost.Reaction

/-!
A host on a segment: a device, a frame buffer, and what is registered with it.

A host answers what it receives (`poll`), and it can answer once more what it received last
(`udpSend`, `tcpSend`). Polling a finite device ends, although every frame taken off the queue may
bring others back onto it: a frame is sent at most once for each one received, and no frame sent
takes the device further from its end.
-/

namespace PacketHost

structure Host (δ : Type) where
  device : δ
  settings : Settings
  frame : Frame := .blank
  handlers : Registry := {}
  pingSequence : UInt16 := 0
  dnsTransaction : UInt16
  /-- Every turn an application has had, oldest first. -/
  deliveries : List Delivery := []
  log : List Note := []

/-- What a host does step by step, up to the first error. The host is kept in any case. -/
abbrev Task (δ : Type) := ExceptT NetError (StateM (Host δ))

namespace Task

variable {δ α β : Type} (h : Host δ)

@[simp] theorem pure_apply (a : α) : (pure a : Task δ α) h = (.ok a, h) := rfl

@[simp] theorem throw_apply (e : NetError) : (throw e : Task δ α) h = (.error e, h) := rfl

@[simp] theorem get_apply : (get : Task δ (Host δ)) h = (.ok h, h) := rfl

@[simp] theorem modify_apply (f : Host δ → Host δ) :
    (modify f : Task δ PUnit) h = (.ok ⟨⟩, f h) := rfl

@[simp] theorem lift_apply (r : Except NetError α) : (liftM r : Task δ α) h = (r, h) := rfl

theorem bind_apply (t : Task δ α) (f : α → Task δ β) :
    (t >>= f) h =
      match t h with
      | (.ok a, h') => f a h'
      | (.error e, h') => (.error e, h') := by
  rcases ht : t h with ⟨r, h'⟩
  show (match t h with | (r, s) => ExceptT.bindCont f r s) = _
  rw [ht]
  cases r <;> rfl

theorem get_bind (t : Host δ → Task δ β) : ((get : Task δ (Host δ)) >>= t) h = t h h := by
  rw [bind_apply, get_apply]

theorem modify_bind (f : Host δ → Host δ) (t : PUnit → Task δ β) :
    ((modify f : Task δ PUnit) >>= t) h = t ⟨⟩ (f h) := by
  rw [bind_apply, modify_apply]

end Task

namespace Host

variable {δ : Type}

def new (device : δ) (settings : Settings) : Host δ :=
  { device, settings, dnsTransaction := settings.dnsTransactionSeed }

def note (h : Host δ) (n : Note) : Host δ := { h with log := h.log ++ [n] }

def register (h : Host δ) (handler : Handler) (b : Binding) : Host δ :=
  { h with handlers := h.handlers.register handler b }

variable [Device δ]

/-- Takes one frame off the device and into the buffer. -/
def receive (h : Host δ) : Except String Bytes × Host δ :=
  let r := Device.receive frameSize h.device
  let h := { h with device := r.2 }
  match r.1 with
  | .error reason => (.error reason, h)
  | .ok b => (.ok b, { h with frame := h.frame.write 0 b })

/-- Sends the first `len` bytes of the buffer. -/
def transmit (len : Nat) : Task δ Unit := fun h =>
  let r := Device.send (h.frame.bytes.take len) h.device
  (r.1.mapError .device, { h with device := r.2 })

/-- Takes over a frame with an answer in it, and sends the answer if it can be sent. -/
def finish (p : Prepared) : Task δ Unit := fun h =>
  let h := { h with frame := p.frame }
  match p.result with
  | .error e => (.error e, h)
  | .ok len => transmit len h

/-- Takes over a reaction, without its answer. -/
def absorb (h : Host δ) (r : Reaction) : Host δ :=
  { h with
    frame := r.frame
    log := h.log ++ r.notes
    deliveries := h.deliveries ++ r.delivery.toList }

/-- Carries out a reaction. A failure to answer is noted, and that is all. -/
def carryOut (h : Host δ) (r : Reaction) : Host δ :=
  match r.reply with
  | none => h.absorb r
  | some (kind, result) =>
    let done := finish ⟨r.frame, result⟩ (h.absorb r)
    match done.1 with
    | .ok _ => done.2
    | .error e => done.2.note (.replyFailed kind e)

/-- Reacts to the frame in the first `len` bytes of the buffer. -/
def dispatch (h : Host δ) (len : Nat) : Host δ :=
  h.carryOut (h.frame.react h.settings h.handlers h.deliveries.length len)

/-- Answers the datagram in the buffer. -/
def udpSend (data : Bytes) : Task δ Unit := do
  let h ← get
  finish (h.frame.sendUdp h.settings data)

/-- Answers the segment in the buffer. -/
def tcpSend (data : Bytes) : Task δ Unit := do
  let h ← get
  finish (h.frame.sendTcp h.settings h.handlers data)

theorem device_receive (h : Host δ) : h.receive.2.device = (Device.receive frameSize h.device).2 := by
  unfold receive
  dsimp only
  split <;> rfl

theorem result_receive (h : Host δ) : h.receive.1 = (Device.receive frameSize h.device).1 := by
  unfold receive
  dsimp only
  split <;> simp [*]

theorem device_finish (h : Host δ) (p : Prepared) :
    (finish p h).2.device = h.device ∨ ∃ b, (finish p h).2.device = (Device.send b h.device).2 := by
  unfold finish
  split
  · exact .inl rfl
  · exact .inr ⟨_, rfl⟩

theorem device_carryOut (h : Host δ) (r : Reaction) :
    (h.carryOut r).device = h.device ∨
      ∃ b, (h.carryOut r).device = (Device.send b h.device).2 := by
  unfold carryOut
  split
  · exact .inl rfl
  next kind result _ =>
    have := (h.absorb r).device_finish ⟨r.frame, result⟩
    dsimp only
    split
    · exact this
    · exact this

/-- A reaction calls the device at most once, to send. -/
theorem device_dispatch (h : Host δ) (len : Nat) :
    (h.dispatch len).device = h.device ∨
      ∃ b, (h.dispatch len).device = (Device.send b h.device).2 :=
  h.device_carryOut _

end Host

namespace Host

variable {δ : Type} [FiniteDevice δ]

theorem rank_dispatch (h : Host δ) (len : Nat) :
    FiniteDevice.rank (h.dispatch len).device = FiniteDevice.rank h.device ∨
      RankLt (FiniteDevice.rank (h.dispatch len).device) (FiniteDevice.rank h.device) := by
  rcases h.device_dispatch len with he | ⟨b, he⟩
  · exact .inl (by rw [he])
  · rw [he]
    exact FiniteDevice.rank_send b h.device

/-- Receives and reacts until nothing is pending or the device fails, and gives the number of frames
received. An empty frame counts as nothing. -/
def poll (h : Host δ) : Nat × Host δ :=
  match hr : h.receive with
  | (.error reason, h') => (0, h'.note (.receiveFailed reason))
  | (.ok [], h') => (0, h')
  | (.ok (_ :: b), h') =>
    let rest := (h'.dispatch (b.length + 1)).poll
    (rest.1 + 1, rest.2)
termination_by FiniteDevice.rank h.device
decreasing_by
  have hd : h'.device = (Device.receive frameSize h.device).2 := by
    rw [← h.device_receive, hr]
  have hl : RankLt (FiniteDevice.rank h'.device) (FiniteDevice.rank h.device) := by
    rw [hd]
    exact FiniteDevice.rank_receive (by rw [← h.result_receive, hr])
  rcases h'.rank_dispatch (b.length + 1) with he | he
  · rw [he]
    exact hl
  · exact he.trans hl

end Host

end PacketHost
