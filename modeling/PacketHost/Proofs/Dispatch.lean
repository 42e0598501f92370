import PacketHost.Device.Memory
import PacketHost.Host
import PacketHost.Proofs.Reacting

/-!
What a reaction does to the host.

Carrying out a reaction hands the device what goes out of it, if anything does, and appends the turn
an application had to those before. Nothing else of the host but its buffer and its log changes, and
whether the device accepts the frame makes a difference to the log only. Polling is then described
receive call by receive call.
-/

namespace PacketHost

/-- The device after it has been handed a frame, if there is one. -/
def Device.handed {δ : Type} [Device δ] (d : δ) : Option Bytes → δ
  | none => d
  | some g => (Device.send g d).2

namespace Host

variable {δ : Type} [Device δ]

lemma finish_eq (h : Host δ) (p : Prepared) :
    (finish p h).2 =
      { h with frame := p.frame, device := Device.handed h.device p.outgoing? } := by
  obtain ⟨frame, reason | len⟩ := p
  · rfl
  · rfl

lemma carryOut_eq (h : Host δ) (x : Reaction) : ∃ log : List Note,
    h.carryOut x =
      { h with
        frame := x.frame
        device := Device.handed h.device x.outgoing?
        deliveries := h.deliveries ++ x.delivery.toList
        log := log } := by
  obtain ⟨frame, notes, delivery, reply⟩ := x
  rcases reply with - | ⟨kind, reason | len⟩
  · exact ⟨_, rfl⟩
  · exact ⟨_, rfl⟩
  · simp only [carryOut, finish, transmit, absorb]
    -- the device may refuse the frame
    split
    · exact ⟨_, rfl⟩
    · exact ⟨_, rfl⟩

/-- The host with a frame received into its buffer. -/
def holding (h : Host δ) (b : Bytes) : Host δ := { h with frame := h.frame.write 0 b }

variable (h : Host δ) (b : Bytes)

/-- The reaction to a frame. -/
def reaction : Reaction :=
  (h.frame.write 0 b).react h.settings h.handlers h.deliveries.length b.length

lemma dispatch_eq : ∃ log : List Note,
    (h.holding b).dispatch b.length =
      { h with
        frame := (h.reaction b).frame
        device := Device.handed h.device (h.reaction b).outgoing?
        deliveries := h.deliveries ++ (h.reaction b).delivery.toList
        log := log } :=
  (h.holding b).carryOut_eq (h.reaction b)

lemma receive_of_ok (hr : (Device.receive frameSize h.device).1 = .ok b) :
    h.receive =
      (.ok b, { h with device := (Device.receive frameSize h.device).2 }.holding b) := by
  rw [receive, hr]
  rfl

end Host

namespace Host

variable {δ : Type} [FiniteDevice δ] (h : Host δ)

lemma poll_of_error {reason : String} {h' : Host δ} (hr : h.receive = (.error reason, h')) :
    h.poll = (0, h'.note (.receiveFailed reason)) := by
  rw [poll]
  split
  next heq => rw [hr] at heq; cases heq; rfl
  next heq => rw [hr] at heq; cases heq
  next heq => rw [hr] at heq; cases heq

/-- An empty frame ends a poll. -/
lemma poll_of_empty {h' : Host δ} (hr : h.receive = (.ok [], h')) : h.poll = (0, h') := by
  rw [poll]
  split
  next heq => rw [hr] at heq; cases heq
  next heq => rw [hr] at heq; cases heq; rfl
  next heq => rw [hr] at heq; cases heq

/-- A frame is reacted to before the next one is received. -/
lemma poll_of_frame {b : Bytes} {h' : Host δ} (hb : b ≠ []) (hr : h.receive = (.ok b, h')) :
    h.poll = ((h'.dispatch b.length).poll.1 + 1, (h'.dispatch b.length).poll.2) := by
  rw [poll]
  split
  next heq => rw [hr] at heq; cases heq
  next heq => rw [hr] at heq; cases heq; exact absurd rfl hb
  next heq => rw [hr] at heq; cases heq; rfl

/-- A poll takes the first pending frame, and goes on with what the reaction to it has made of the
host. -/
lemma poll_of_received {b : Bytes} (hb : b ≠ [])
    (hr : (Device.receive frameSize h.device).1 = .ok b) : ∃ log : List Note, ∃ h' : Host δ,
      h' =
        { h with
          frame := (h.reaction b).frame
          device :=
            Device.handed (Device.receive frameSize h.device).2 (h.reaction b).outgoing?
          deliveries := h.deliveries ++ (h.reaction b).delivery.toList
          log := log } ∧
        h.poll = (h'.poll.1 + 1, h'.poll.2) := by
  obtain ⟨log, hdispatch⟩ :=
    { h with device := (Device.receive frameSize h.device).2 }.dispatch_eq b
  exact ⟨log, _, hdispatch, h.poll_of_frame hb (h.receive_of_ok b hr)⟩

/-- A device with nothing pending ends a poll. -/
lemma poll_of_drained (hr : (Device.receive frameSize h.device).1 = .ok []) :
    h.poll = (0, { h with device := (Device.receive frameSize h.device).2 }) := by
  rw [h.poll_of_empty (h.receive_of_ok [] hr), holding, Frame.write_nil]

end Host

/-! ### A device in memory -/

namespace MemoryDevice

variable (d : MemoryDevice)

lemma receive_eq (limit : Nat) :
    Device.receive limit d =
      (.ok ((d.queue.headD []).take limit),
        { d with queue := d.queue.tail, receiveCalls := d.receiveCalls + 1 }) :=
  rfl

/-- Nobody answers what is sent. -/
lemma handed_eq {d : MemoryDevice} (h : d.script = []) (out : Option Bytes) :
    Device.handed d out = { d with sent := d.sent ++ out.toList } := by
  obtain ⟨queue, sent, script, receiveCalls⟩ := d
  dsimp only at h
  subst h
  cases out with
  | none => simp [Device.handed]
  | some g => simp [Device.handed, Device.send, send]

end MemoryDevice

namespace Host

/-- Sending from memory does not fail. -/
lemma result_finish (h : Host MemoryDevice) (p : Prepared) :
    (finish p h).1 = p.result.map fun _ => () := by
  obtain ⟨frame, reason | len⟩ := p
  · rfl
  · rfl

lemma device_finish_memory (h : Host MemoryDevice) (hscript : h.device.script = []) (p : Prepared) :
    (finish p h).2.device =
      { h.device with sent := h.device.sent ++ p.outgoing?.toList } := by
  rw [finish_eq]
  exact MemoryDevice.handed_eq hscript _

lemma take_frameSize_ne_nil {b : Bytes} (hb : b ≠ []) : b.take frameSize ≠ [] := by
  cases b with
  | nil => exact absurd rfl hb
  | cons x b => exact List.cons_ne_nil _ _

/-- Polling for one frame. -/
lemma poll_single (h : Host MemoryDevice) {b : Bytes} (hb : b ≠ []) (hqueue : h.device.queue = [b])
    (hscript : h.device.script = []) : ∃ log : List Note,
    h.poll =
      (1, { h with
        frame := (h.reaction (b.take frameSize)).frame
        device := { h.device with
          queue := []
          sent := h.device.sent ++ (h.reaction (b.take frameSize)).outgoing?.toList
          receiveCalls := h.device.receiveCalls + 2 }
        deliveries := h.deliveries ++ (h.reaction (b.take frameSize)).delivery.toList
        log := log }) := by
  have hreceived : (Device.receive frameSize h.device).1 = .ok (b.take frameSize) := by
    rw [MemoryDevice.receive_eq, hqueue]
    rfl
  obtain ⟨log, h', hh', hpoll⟩ := h.poll_of_received (take_frameSize_ne_nil hb) hreceived
  have hdevice : h'.device =
      { h.device with
        queue := []
        sent := h.device.sent ++ (h.reaction (b.take frameSize)).outgoing?.toList
        receiveCalls := h.device.receiveCalls + 1 } := by
    have hscript' : (Device.receive frameSize h.device).2.script = [] := hscript
    rw [hh', MemoryDevice.handed_eq hscript', MemoryDevice.receive_eq, hqueue]
    rfl
  have hdrained : (Device.receive frameSize h'.device).1 = .ok [] := by
    rw [hdevice]
    rfl
  refine ⟨log, ?_⟩
  rw [hpoll, h'.poll_of_drained hdrained, hdevice, hh']
  rfl

end Host

/-! ### A host that echoes -/

def Handler.echo : Handler := ⟨"echo", fun _ x => [.reply x.request]⟩

/-- A host on a device in memory that echoes the datagrams to its port 7. -/
def Host.echoing (queue : List Bytes) : Host MemoryDevice :=
  (Host.new { queue } {}).register .echo (.udp 7)

/-- A datagram of three bytes for that port. -/
def oddDatagram : Bytes :=
  [0x02, 0, 0, 0, 0, 0x01, 0x02, 0, 0, 0, 0, 0x02, 0x08, 0x00,
    0x45, 0, 0, 31, 0x12, 0x34, 0, 0, 64, 17, 0, 0, 10, 0, 0, 2, 10, 0, 0, 1,
    0x0f, 0xa0, 0, 7, 0, 11, 0, 0, 0x6f, 0x64, 0x64]

lemma length_sent_oddDatagram :
    (((Host.echoing []).holding oddDatagram).dispatch
      oddDatagram.length).device.sent.length = 1 := by
  decide +kernel

end PacketHost
