import PacketHost.Device.Faulty
import PacketHost.Proofs.Dispatch

/-!
What a poll takes, sends and leaves.

Reacting to a frame may bring more frames onto the queue it was taken from, so the length of the
queue says nothing about when a poll ends. What ends it is that a script answers only so many times
and that no reaction sends more than one frame. Here the frames are counted: those that were pending
and those that a peer has added are the ones that were taken and the ones that are left, in this
order.
-/

namespace PacketHost

namespace Host

variable {δ : Type}

/-- A poll, receive call by receive call: it gives a count and leaves a host. -/
inductive Polls [Device δ] : Host δ → Nat → Host δ → Prop
  | failed {h h' : Host δ} {reason : String} (hr : h.receive = (.error reason, h')) :
      Polls h 0 (h'.note (.receiveFailed reason))
  | nothing {h h' : Host δ} (hr : h.receive = (.ok [], h')) : Polls h 0 h'
  | frame {h h' last : Host δ} {b : Bytes} {count : Nat} (hb : b ≠ [])
      (hr : h.receive = (.ok b, h')) (hp : Polls (h'.dispatch b.length) count last) :
      Polls h (count + 1) last

/-- Polling a finite device comes to an end after finitely many calls. -/
lemma polls_poll [FiniteDevice δ] (h : Host δ) : Polls h h.poll.1 h.poll.2 := by
  induction h using poll.induct with
  | case1 h reason h' hr =>
    rw [h.poll_of_error hr]
    exact .failed hr
  | case2 h h' hr =>
    rw [h.poll_of_empty hr]
    exact .nothing hr
  | case3 h x b h' hr ih =>
    have hb : x :: b ≠ [] := List.cons_ne_nil x b
    rw [h.poll_of_frame hb hr]
    exact .frame hb hr ih

end Host

/-! ### A peer that answers by a script -/

namespace MemoryDevice

/-- What the rules answer, the first of them to the first frame and so on. -/
def answers (script : List (Bytes → List Bytes)) (sent : List Bytes) : List Bytes :=
  (List.zipWith (fun rule b => rule b) script sent).flatten

@[simp] lemma answers_nil_right (script : List (Bytes → List Bytes)) : answers script [] = [] := by
  simp [answers]

lemma answers_append (script : List (Bytes → List Bytes)) (xs ys : List Bytes) :
    answers script (xs ++ ys) = answers script xs ++ answers (script.drop xs.length) ys := by
  induction xs generalizing script with
  | nil => simp
  | cons x xs ih =>
    cases script with
    | nil => simp [answers]
    | cons rule rules => simpa [answers] using ih rules

/-- The device after these frames have been sent. -/
def sending (d : MemoryDevice) (frames : List Bytes) : MemoryDevice :=
  { d with
    queue := d.queue ++ answers d.script frames
    sent := d.sent ++ frames
    script := d.script.drop frames.length }

lemma sending_nil (d : MemoryDevice) : d.sending [] = d := by
  simp [sending]

lemma send_eq (d : MemoryDevice) (b : Bytes) : d.send b = d.sending [b] := by
  obtain ⟨queue, sent, script, receiveCalls⟩ := d
  cases script with
  | nil => simp [send, sending, answers]
  | cons rule rules => simp [send, sending, answers]

/-- Everything that is received, first what is pending and then what is answered. -/
def stream (d : MemoryDevice) (frames : List Bytes) : List Bytes :=
  d.queue ++ answers d.script frames

lemma stream_sending (d : MemoryDevice) (xs ys : List Bytes) :
    (d.sending xs).stream ys = d.stream (xs ++ ys) := by
  simp only [stream, sending, answers_append, List.append_assoc]

end MemoryDevice

namespace FaultyDevice

variable (d : FaultyDevice MemoryDevice)

/-- The device is handed one frame at most, and whether it reaches the peer is up to the plan. -/
lemma handed_sending (out : Option Bytes) : ∃ (frames : List Bytes) (plan : FaultPlan),
    frames.length ≤ 1 ∧
      Device.handed d out =
        { d with inner := d.inner.sending frames, sendPlan := plan } := by
  cases out with
  | none => exact ⟨[], d.sendPlan, Nat.zero_le 1, by rw [MemoryDevice.sending_nil]; rfl⟩
  | some g =>
    show ∃ (frames : List Bytes) (plan : FaultPlan), frames.length ≤ 1 ∧
      (FaultyDevice.send g d).2 = _
    unfold FaultyDevice.send
    cases d.sendPlan.current? with
    | some reason =>
      exact ⟨[], d.sendPlan.advance, Nat.zero_le 1, by rw [MemoryDevice.sending_nil]⟩
    | none =>
      refine ⟨[g], d.sendPlan.advance, Nat.le_refl 1, ?_⟩
      rw [← MemoryDevice.send_eq]
      rfl

variable {d} {d' : FaultyDevice MemoryDevice}

/-- A call that is made to fail takes nothing. -/
lemma receive_error {reason : String} (h : Device.receive frameSize d = (.error reason, d')) :
    d.receivePlan.current? = some reason ∧
      d' = { d with receivePlan := d.receivePlan.advance } := by
  replace h : FaultyDevice.receive frameSize d = (.error reason, d') := h
  unfold FaultyDevice.receive at h
  cases hplan : d.receivePlan.current? with
  | none =>
    rw [hplan] at h
    cases h
  | some planned =>
    rw [hplan] at h
    cases h
    exact ⟨rfl, rfl⟩

lemma receive_ok {b : Bytes} (h : Device.receive frameSize d = (.ok b, d')) :
    d.receivePlan.current? = none ∧ b = (d.inner.queue.headD []).take frameSize ∧
      d' = { d with
        receivePlan := d.receivePlan.advance
        inner := (d.inner.receive frameSize).2 } := by
  replace h : FaultyDevice.receive frameSize d = (.ok b, d') := h
  unfold FaultyDevice.receive at h
  cases hplan : d.receivePlan.current? with
  | none =>
    rw [hplan] at h
    cases h
    exact ⟨rfl, rfl, rfl⟩
  | some planned =>
    rw [hplan] at h
    cases h

end FaultyDevice

/-! ### The account of a poll -/

/-- Why a poll stopped. -/
inductive Stop
  /-- Nothing was pending. -/
  | drained
  /-- An empty frame was pending, which has been taken. -/
  | emptyFrame
  | failed (reason : String)

namespace Stop

/-- How many frames were taken that do not count. -/
def taken : Stop → Nat
  | .emptyFrame => 1
  | _ => 0

/-- What the last call met: whether it was planned to fail, the frame that was next, and what is
left after it. -/
def Met (planned : Option String) (next : Option Bytes) (left : List Bytes) : Stop → Prop
  | .drained => planned = none ∧ next = none ∧ left = []
  | .emptyFrame => planned = none ∧ next = some []
  | .failed reason => planned = some reason

end Stop

/-- What happened to the device in a poll that counted `count` frames, sent `sent` and ended as
`stop` says. -/
structure Account (d d' : FaultyDevice MemoryDevice) (count : Nat) (sent : List Bytes)
    (stop : Stop) : Prop where
  sent_eq : d'.inner.sent = d.inner.sent ++ sent
  script_eq : d'.inner.script = d.inner.script.drop sent.length
  /-- No frame is answered twice. -/
  sent_le : sent.length ≤ count
  /-- Frames are taken in order, and none is lost. -/
  queue_eq : d'.inner.queue = (d.inner.stream sent).drop (count + stop.taken)
  conserved : count + stop.taken + d'.inner.pending =
    d.inner.pending + (MemoryDevice.answers d.inner.script sent).length
  /-- Empty frames do not count. -/
  counted : ∀ b ∈ (d.inner.stream sent).take count, b ≠ []
  receivePlan_eq : d'.receivePlan = { d.receivePlan with calls := d.receivePlan.calls + count + 1 }
  passed : ∀ i < count, d.receivePlan.reason? (d.receivePlan.calls + i) = none
  /-- A poll does not stop for any other reason. -/
  stopped : stop.Met (d.receivePlan.reason? (d.receivePlan.calls + count))
    (d.inner.stream sent)[count]? d'.inner.queue

namespace Account

variable {d d₁ d' : FaultyDevice MemoryDevice}

/-- The call that ends a poll takes one frame at most and sends nothing. -/
lemma of_last {stop : Stop} (hsent : d'.inner.sent = d.inner.sent)
    (hscript : d'.inner.script = d.inner.script)
    (hqueue : d'.inner.queue = d.inner.queue.drop stop.taken)
    (htaken : stop.taken ≤ d.inner.queue.length)
    (hplan : d'.receivePlan = d.receivePlan.advance)
    (hmet : stop.Met d.receivePlan.current? d.inner.queue[0]? d'.inner.queue) :
    Account d d' 0 [] stop where
  sent_eq := by simp [hsent]
  script_eq := by simp [hscript]
  sent_le := Nat.le_refl 0
  queue_eq := by simp [MemoryDevice.stream, hqueue]
  conserved := by
    simp only [MemoryDevice.pending, hqueue, List.length_drop, MemoryDevice.answers_nil_right,
      List.length_nil]
    omega
  counted := by simp
  receivePlan_eq := hplan
  passed := by simp
  stopped := by
    simp only [MemoryDevice.stream, MemoryDevice.answers_nil_right, List.append_nil]
    exact hmet

lemma of_failed {reason : String} (h : Device.receive frameSize d = (.error reason, d')) :
    Account d d' 0 [] (.failed reason) := by
  obtain ⟨hplan, rfl⟩ := FaultyDevice.receive_error h
  exact .of_last rfl rfl rfl (Nat.zero_le _) rfl hplan

/-- A device with nothing pending and one with an empty frame pending give the same. -/
lemma of_nothing (h : Device.receive frameSize d = (.ok [], d')) :
    ∃ stop, Account d d' 0 [] stop := by
  obtain ⟨hplan, hhead, rfl⟩ := FaultyDevice.receive_ok h
  rcases hq : d.inner.queue with - | ⟨b, rest⟩
  · have hleft : (d.inner.receive frameSize).2.queue = [] := by simp [MemoryDevice.receive, hq]
    refine ⟨.drained, .of_last rfl rfl ?_ (Nat.zero_le _) rfl ⟨hplan, ?_, hleft⟩⟩
    · rw [hleft, hq]
      rfl
    · rw [hq]
      rfl
  · have hb : b = [] := by
      rw [hq] at hhead
      exact Decidable.byContradiction fun hne => Host.take_frameSize_ne_nil hne hhead.symm
    refine ⟨.emptyFrame, .of_last rfl rfl ?_ ?_ rfl ⟨hplan, ?_⟩⟩
    · simp [MemoryDevice.receive, Stop.taken]
    · simp [Stop.taken, hq]
    · simp [hq, hb]

/-- One frame more is taken, in front of all others, and answered or not. -/
lemma cons {b : Bytes} {frames sent : List Bytes} {plan : FaultPlan} {count : Nat} {stop : Stop}
    (hb : b ≠ []) (h : Device.receive frameSize d = (.ok b, d₁)) (hframes : frames.length ≤ 1)
    (ha : Account { d₁ with inner := d₁.inner.sending frames, sendPlan := plan } d' count sent
      stop) :
    Account d d' (count + 1) (frames ++ sent) stop := by
  obtain ⟨hplan, hhead, rfl⟩ := FaultyDevice.receive_ok h
  obtain ⟨hsent, hscript, hle, hqueue, hcount, hcounted, hreceive, hpassed, hstopped⟩ := ha
  rcases hq : d.inner.queue with - | ⟨first, rest⟩
  · rw [hq] at hhead
    exact absurd hhead hb
  have hfirst : first ≠ [] := by
    rintro rfl
    rw [hq] at hhead
    exact hb hhead
  have hstream : d.inner.stream (frames ++ sent) =
      first :: ((d.inner.receive frameSize).2.sending frames).stream sent := by
    rw [MemoryDevice.stream_sending]
    simp [MemoryDevice.stream, MemoryDevice.receive, hq]
  have hcall (i : Nat) : d.receivePlan.calls + (i + 1) = d.receivePlan.calls + 1 + i := by omega
  simp only [FaultPlan.advance] at hreceive hpassed hstopped
  constructor
  case sent_eq =>
    rw [hsent]
    simp [MemoryDevice.sending, MemoryDevice.receive]
  case script_eq =>
    rw [hscript]
    simp [MemoryDevice.sending, MemoryDevice.receive]
  case sent_le =>
    rw [List.length_append]
    omega
  case queue_eq => rw [hqueue, hstream, Nat.add_right_comm, List.drop_succ_cons]
  case conserved =>
    have hlength := congrArg List.length hstream
    simp only [MemoryDevice.stream, List.length_append, List.length_cons] at hlength
    simp only [MemoryDevice.pending] at hcount ⊢
    omega
  case counted =>
    rw [hstream, List.take_succ_cons]
    intro x hx
    rcases List.mem_cons.1 hx with rfl | hx
    · exact hfirst
    · exact hcounted x hx
  case receivePlan_eq => rw [hreceive, ← hcall]
  case passed =>
    intro i hi
    rcases i with - | i
    · exact hplan
    · rw [hcall]
      exact hpassed i (by omega)
  case stopped =>
    rw [hcall, hstream, List.getElem?_cons_succ]
    exact hstopped

end Account

namespace Host

lemma device_of_receive {δ : Type} [Device δ] {h h' : Host δ} {result : Except String Bytes}
    (hr : h.receive = (result, h')) :
    Device.receive frameSize h.device = (result, h'.device) := by
  have hdevice := h.device_receive
  have hresult := h.result_receive
  rw [hr] at hdevice hresult
  exact Prod.ext hresult.symm hdevice.symm

lemma handed_dispatch {δ : Type} [Device δ] (h : Host δ) (len : Nat) :
    ∃ out, (h.dispatch len).device = Device.handed h.device out := by
  obtain ⟨log, hcarry⟩ :=
    h.carryOut_eq (h.frame.react h.settings h.handlers h.deliveries.length len)
  rw [dispatch, hcarry]
  exact ⟨_, rfl⟩

/-- Every poll has an account. -/
lemma Polls.account {h last : Host (FaultyDevice MemoryDevice)} {count : Nat}
    (hp : Polls h count last) : ∃ sent stop, Account h.device last.device count sent stop := by
  induction hp with
  | @failed h h' reason hr =>
    have hdevice := device_of_receive hr
    exact ⟨[], .failed reason, Account.of_failed hdevice⟩
  | nothing hr =>
    have hdevice := device_of_receive hr
    exact ⟨[], Account.of_nothing hdevice⟩
  | @frame h h' last b count hb hr _ ih =>
    obtain ⟨sent, stop, haccount⟩ := ih
    obtain ⟨out, hout⟩ := h'.handed_dispatch b.length
    obtain ⟨frames, plan, hframes, hhanded⟩ := h'.device.handed_sending out
    rw [hout, hhanded] at haccount
    exact ⟨frames ++ sent, stop, haccount.cons hb (device_of_receive hr) hframes⟩

end Host

/-- **Polling ends, and loses no frame**: against a peer with a script, and whichever calls fail,
the frames that were pending or have been answered are those that are counted, the empty one that
may have ended the poll, and those that are left. No more frames are sent than are counted. A poll
stops because nothing is pending, because it has taken an empty frame, or because a call failed,
which then has taken nothing. -/
theorem poll_conserves (h : Host (FaultyDevice MemoryDevice)) : ∃ sent stop,
    h.Polls h.poll.1 h.poll.2 ∧
      Account h.device h.poll.2.device h.poll.1 sent stop := by
  obtain ⟨sent, stop, haccount⟩ := h.polls_poll.account
  exact ⟨sent, stop, h.polls_poll, haccount⟩

end PacketHost
