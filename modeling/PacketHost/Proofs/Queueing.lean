import PacketHost.Device.Memory
import PacketHost.Proofs.Names

/-!
A device in memory is a faithful queue.

Seen from outside, a device is what has been done with it. The frames that were pushed and those
that the peer answered make one sequence (`queued`), and every receive call that finds a frame finds
the next one of that sequence, laid over the buffer it was given as far as the buffer goes. What
has not been received yet is the rest of the sequence. What was sent, on the other side, is either
taken or still to be taken.

The peer may be anything that goes by what it was sent (`Responder`). A script is a peer, and what a
peer does in a run could have been scripted.
-/

namespace PacketHost

open Bytes

/-- What a peer answers to a frame, after the frames that it was sent before. -/
abbrev Responder := List Bytes → Bytes → List Bytes

namespace Responder

/-- The peer that follows a script: one rule for each frame, and no answers after the last rule. -/
def ofScript (rules : List (Bytes → List Bytes)) : Responder :=
  fun earlier b => (rules[earlier.length]?.map (· b)).getD []

/-- The rules that a peer follows while it is sent these frames. -/
def script (respond : Responder) (frames : List Bytes) : List (Bytes → List Bytes) :=
  (List.range frames.length).map fun i => respond (frames.take i)

end Responder

namespace MemoryDevice

/-- What can be done with a device. -/
inductive Command
  | push (frame : Bytes)
  | receive (buffer : Bytes)
  | send (b : Bytes)
  | takeSent

/-- What is given back. -/
inductive Result
  | done
  /-- How many bytes have been received, and the buffer with them in it. -/
  | received (length : Nat) (buffer : Bytes)
  | taken (frames : List Bytes)

/-- What is received is laid over the buffer from its start on. -/
def obey (d : MemoryDevice) : Command → Result × MemoryDevice
  | .push frame => (.done, d.push [frame])
  | .receive buffer =>
    let r := d.receive buffer.length
    (.received r.1.length (overwrite buffer 0 r.1), r.2)
  | .send b => (.done, d.send b)
  | .takeSent => (.taken d.takeSent.1, d.takeSent.2)

def run (d : MemoryDevice) : List Command → List Result × MemoryDevice
  | [] => ([], d)
  | c :: cs =>
    let first := d.obey c
    let rest := first.2.run cs
    (first.1 :: rest.1, rest.2)

/-! ### What has been done, and what has been seen -/

def Command.sent? : Command → Option Bytes
  | .send b => some b
  | _ => none

def Command.buffer? : Command → Option Bytes
  | .receive buffer => some buffer
  | _ => none

/-- The frames that a command queues, after the frames sent before. -/
def Command.queues (respond : Responder) (earlier : List Bytes) : Command → List Bytes
  | .push frame => [frame]
  | .send b => respond earlier b
  | .receive _ => []
  | .takeSent => []

def Result.received? : Result → Option (Nat × Bytes)
  | .received length buffer => some (length, buffer)
  | _ => none

def Result.frames : Result → List Bytes
  | .taken frames => frames
  | _ => []

def sentIn (cs : List Command) : List Bytes := cs.filterMap Command.sent?

/-- The buffers that were given to receive into, one for each call. -/
def buffersIn (cs : List Command) : List Bytes := cs.filterMap Command.buffer?

/-- All frames that were queued, pushed and answered, in their order. -/
def queued (respond : Responder) (earlier : List Bytes) : List Command → List Bytes
  | [] => []
  | c :: cs => c.queues respond earlier ++ queued respond (earlier ++ c.sent?.toList) cs

/-- What a receive call makes of its buffer when it finds a frame, or nothing. -/
def fill : Option Bytes → Bytes → Nat × Bytes
  | none, buffer => (0, buffer)
  | some frame, buffer =>
    let n := min frame.length buffer.length
    (n, frame.take n ++ buffer.drop n)

/-- The frames among what receive calls have found. -/
def handedOut (found : List (Option Bytes)) : List Bytes := found.filterMap id

section Sequence

variable {respond respond' : Responder} {earlier : List Bytes}

lemma sentIn_append (xs ys : List Command) : sentIn (xs ++ ys) = sentIn xs ++ sentIn ys :=
  List.filterMap_append

lemma buffersIn_append (xs ys : List Command) :
    buffersIn (xs ++ ys) = buffersIn xs ++ buffersIn ys :=
  List.filterMap_append

lemma sentIn_cons (c : Command) (cs : List Command) :
    sentIn (c :: cs) = c.sent?.toList ++ sentIn cs :=
  sentIn_append [c] cs

lemma handedOut_append (xs ys : List (Option Bytes)) :
    handedOut (xs ++ ys) = handedOut xs ++ handedOut ys :=
  List.filterMap_append

lemma queued_append (xs ys : List Command) :
    queued respond earlier (xs ++ ys) =
      queued respond earlier xs ++ queued respond (earlier ++ sentIn xs) ys := by
  induction xs generalizing earlier with
  | nil =>
    rw [List.nil_append, queued, List.nil_append, sentIn, List.filterMap_nil, List.append_nil]
  | cons c xs ih =>
    rw [List.cons_append, queued, ih, queued, sentIn_cons, List.append_assoc, List.append_assoc]

/-- A peer is known by what it does with the frames that it is sent. -/
lemma queued_congr {cs : List Command}
    (h : ∀ sent b rest, sentIn cs = sent ++ b :: rest →
      respond (earlier ++ sent) b = respond' (earlier ++ sent) b) :
    queued respond earlier cs = queued respond' earlier cs := by
  induction cs generalizing earlier with
  | nil => rfl
  | cons c cs ih =>
    have hfirst : c.queues respond earlier = c.queues respond' earlier := by
      cases c with
      | send b =>
        have hsame := h [] b (sentIn cs) rfl
        rwa [List.append_nil] at hsame
      | push frame => rfl
      | receive buffer => rfl
      | takeSent => rfl
    rw [queued, queued, hfirst, ih]
    intro sent b rest hrest
    rw [List.append_assoc]
    exact h _ b rest (by rw [sentIn_cons, hrest, List.append_assoc])

end Sequence

end MemoryDevice

lemma Responder.ofScript_script (respond : Responder) {frames sent rest : List Bytes} {b : Bytes}
    (h : frames = sent ++ b :: rest) :
    ofScript (respond.script frames) sent b = respond sent b := by
  have hlt : sent.length < frames.length := by
    rw [h, List.length_append, List.length_cons]
    omega
  have htake : frames.take sent.length = sent := by rw [h, List.take_left]
  rw [ofScript, script, List.getElem?_map, List.getElem?_range hlt, Option.map_some,
    Option.map_some, Option.getD_some, htake]

namespace MemoryDevice

/-! ### Accounts -/

/-- What a command finds to receive, if it is to receive. -/
def finds (d : MemoryDevice) : Command → Option (Option Bytes)
  | .receive _ => some d.queue.head?
  | _ => none

/-- What the receive calls among some commands find. -/
def found (d : MemoryDevice) : List Command → List (Option Bytes)
  | [] => []
  | c :: cs => (d.finds c).toList ++ found (d.obey c).2 cs

/-- What commands have brought about between two states of a device, when their receive calls have
found this. -/
structure Accounts (respond : Responder) (earlier : List Bytes) (d : MemoryDevice)
    (cs : List Command) (results : List Result) (found : List (Option Bytes))
    (d' : MemoryDevice) : Prop where
  length_eq : found.length = (buffersIn cs).length
  received_eq : results.filterMap Result.received? = List.zipWith fill found (buffersIn cs)
  queue_eq : handedOut found ++ d'.queue = d.queue ++ queued respond earlier cs
  receiveCalls_eq : d'.receiveCalls = d.receiveCalls + (buffersIn cs).length
  sent_eq : results.flatMap Result.frames ++ d'.sent = d.sent ++ sentIn cs
  script_eq : d'.script = d.script.drop (sentIn cs).length

section Accounts

variable {respond : Responder} {rules : List (Bytes → List Bytes)} {earlier : List Bytes}
  {d d₁ d₂ d₃ : MemoryDevice} {xs ys : List Command} {rs rs' : List Result}
  {fs fs' : List (Option Bytes)}

lemma Accounts.append (hxs : Accounts respond earlier d₁ xs rs fs d₂)
    (hys : Accounts respond (earlier ++ sentIn xs) d₂ ys rs' fs' d₃) :
    Accounts respond earlier d₁ (xs ++ ys) (rs ++ rs') (fs ++ fs') d₃ where
  length_eq := by
    rw [List.length_append, hxs.length_eq, hys.length_eq, buffersIn_append, List.length_append]
  received_eq := by
    rw [List.filterMap_append, hxs.received_eq, hys.received_eq, buffersIn_append,
      List.zipWith_append hxs.length_eq]
  queue_eq := by
    rw [handedOut_append, List.append_assoc, hys.queue_eq, ← List.append_assoc, hxs.queue_eq,
      List.append_assoc, queued_append]
  receiveCalls_eq := by
    rw [hys.receiveCalls_eq, hxs.receiveCalls_eq, buffersIn_append, List.length_append,
      Nat.add_assoc]
  sent_eq := by
    rw [List.flatMap_append, List.append_assoc, hys.sent_eq, ← List.append_assoc, hxs.sent_eq,
      List.append_assoc, sentIn_append]
  script_eq := by
    rw [hys.script_eq, hxs.script_eq, List.drop_drop, sentIn_append, List.length_append]

/-- A frame is cut to the buffer, and leaves the rest of the buffer as it was. -/
lemma received_receive (d : MemoryDevice) (buffer : Bytes) :
    ((d.receive buffer.length).1.length, overwrite buffer 0 (d.receive buffer.length).1) =
      fill d.queue.head? buffer := by
  cases hq : d.queue with
  | nil => simp [receive, hq, fill]
  | cons frame frames =>
    have hfit : (frame.take buffer.length).length ≤ buffer.length := List.length_take_le ..
    have hcut : frame.take (min frame.length buffer.length) = frame.take buffer.length := by
      rw [List.take_eq_take_iff]
      omega
    simp only [receive, hq, List.headD_cons, List.head?_cons, fill]
    rw [overwrite_zero hfit, hcut, List.length_take, Nat.min_comm]

/-- Every command leaves the accounts in order. -/
lemma accounts_obey (h : d.script = rules.drop earlier.length) (c : Command) :
    Accounts (.ofScript rules) earlier d [c] [(d.obey c).1] (d.finds c).toList (d.obey c).2 := by
  cases c with
  | push frame => exact ⟨rfl, rfl, rfl, rfl, (List.append_nil _).symm, rfl⟩
  | receive buffer =>
    refine ⟨rfl, congrArg (fun r => [r]) (d.received_receive buffer), ?_, rfl,
      (List.append_nil _).symm, rfl⟩
    show handedOut [d.queue.head?] ++ d.queue.tail = d.queue ++ []
    rw [List.append_nil]
    cases d.queue <;> rfl
  | send b =>
    have hrule : (d.script.head?.map (· b)).getD [] = Responder.ofScript rules earlier b := by
      rw [h, List.head?_drop, Responder.ofScript]
    refine ⟨rfl, rfl, ?_, rfl, rfl, List.drop_one.symm⟩
    show d.queue ++ (d.script.head?.map (· b)).getD [] =
      d.queue ++ (Responder.ofScript rules earlier b ++ [])
    rw [hrule, List.append_nil]
  | takeSent =>
    refine ⟨rfl, rfl, (List.append_nil _).symm, rfl, ?_, rfl⟩
    show d.sent ++ [] ++ [] = d.sent ++ []
    rw [List.append_nil]

lemma accounts_run (h : d.script = rules.drop earlier.length) (cs : List Command) :
    Accounts (.ofScript rules) earlier d cs (d.run cs).1 (d.found cs) (d.run cs).2 := by
  induction cs generalizing d earlier with
  | nil =>
    exact ⟨rfl, rfl, (List.append_nil _).symm, rfl, (List.append_nil _).symm, rfl⟩
  | cons c cs ih =>
    have hfirst := accounts_obey h c
    refine hfirst.append (ih ?_)
    rw [hfirst.script_eq, h, List.drop_drop, List.length_append]

lemma found_append (d : MemoryDevice) (xs ys : List Command) :
    d.found (xs ++ ys) = d.found xs ++ (d.run xs).2.found ys := by
  induction xs generalizing d with
  | nil => rfl
  | cons c xs ih => rw [List.cons_append, found, ih, found, List.append_assoc]; rfl

/-- A receive call finds what is at the head of the queue by then. -/
lemma getElem?_found (d : MemoryDevice) (before : List Command) (buffer : Bytes)
    (after : List Command) :
    (d.found (before ++ .receive buffer :: after))[(d.found before).length]? =
      some (d.run before).2.queue.head? := by
  rw [found_append, List.getElem?_append_right (Nat.le_refl _), Nat.sub_self]
  rfl

end Accounts

/-! ### A fresh device -/

/-- What commands have brought about on a fresh device, when its receive calls have found this. -/
structure Faithful (respond : Responder) (cs : List Command) (results : List Result)
    (found : List (Option Bytes)) (d : MemoryDevice) : Prop where
  received_eq : results.filterMap Result.received? = List.zipWith fill found (buffersIn cs)
  length_eq : found.length = (buffersIn cs).length
  /-- A receive call finds the frame that comes next after those handed out before it, if that has
  been queued. -/
  next : ∀ before buffer after, cs = before ++ .receive buffer :: after →
    found[(buffersIn before).length]? =
      some (queued respond [] before)[(handedOut (found.take (buffersIn before).length)).length]?
  isPrefix : handedOut found <+: queued respond [] cs
  queue_eq : handedOut found ++ d.queue = queued respond [] cs
  pending_eq : d.pending = (queued respond [] cs).length - (handedOut found).length
  receiveCalls_eq : d.receiveCalls = (buffersIn cs).length
  sent_eq : results.flatMap Result.frames ++ d.sent = sentIn cs

lemma accounts_fresh (rules : List (Bytes → List Bytes)) (cs : List Command) :
    Accounts (.ofScript rules) [] { script := rules } cs (run { script := rules } cs).1
      (found { script := rules } cs) (run { script := rules } cs).2 :=
  accounts_run rfl cs

lemma faithful_run (rules : List (Bytes → List Bytes)) (cs : List Command) :
    Faithful (.ofScript rules) cs (run { script := rules } cs).1 (found { script := rules } cs)
      (run { script := rules } cs).2 := by
  have hall := accounts_fresh rules cs
  exact {
    received_eq := hall.received_eq
    length_eq := hall.length_eq
    next := by
      rintro before buffer after rfl
      have hbefore := accounts_fresh rules before
      have hqueue := hbefore.queue_eq
      rw [List.nil_append] at hqueue
      rw [← hbefore.length_eq, getElem?_found, found_append, List.take_left, ← hqueue,
        List.getElem?_append_right (Nat.le_refl _), Nat.sub_self, List.head?_eq_getElem?]
    isPrefix := ⟨_, hall.queue_eq⟩
    queue_eq := hall.queue_eq
    pending_eq := by
      have hlength := congrArg List.length hall.queue_eq
      rw [List.length_append, List.nil_append] at hlength
      exact Nat.eq_sub_of_add_eq' hlength
    receiveCalls_eq := hall.receiveCalls_eq.trans (Nat.zero_add _)
    sent_eq := hall.sent_eq }

/-- A peer is known by what it answers to the frames that it is sent. -/
lemma Faithful.congr {respond respond' : Responder} {cs : List Command} {results : List Result}
    {found : List (Option Bytes)} {d : MemoryDevice} (h : Faithful respond cs results found d)
    (hpeer : ∀ sent b rest, sentIn cs = sent ++ b :: rest → respond sent b = respond' sent b) :
    Faithful respond' cs results found d := by
  have hbefore {before after : List Command} (hcs : cs = before ++ after) :
      queued respond [] before = queued respond' [] before := by
    refine queued_congr fun sent b rest hsent => hpeer sent b (rest ++ sentIn after) ?_
    rw [hcs, sentIn_append, hsent, List.append_assoc]
    rfl
  have hall : queued respond [] cs = queued respond' [] cs := hbefore (List.append_nil cs).symm
  exact { h with
    next := by
      intro before buffer after hcs
      rw [← hbefore hcs]
      exact h.next before buffer after hcs
    isPrefix := hall ▸ h.isPrefix
    queue_eq := hall ▸ h.queue_eq
    pending_eq := hall ▸ h.pending_eq }

end MemoryDevice

open MemoryDevice

/-- **A device in memory is a faithful queue.** Whatever is done with it, the frames that were
pushed and answered are handed out in their order, none twice and none left out, each cut to its
buffer; what is pending is the rest, and what was sent has been taken or is there to be taken. The
peer is asked once for each frame sent, and any peer can be put into a script. -/
theorem memory_faithful :
    (∀ (rules : List (Bytes → List Bytes)) (cs : List Command),
      let done := run { script := rules } cs
      ∃ found, Faithful (.ofScript rules) cs done.1 found done.2 ∧
        done.2.script = rules.drop (sentIn cs).length) ∧
    ∀ (respond : Responder) (cs : List Command),
      let done := run { script := respond.script (sentIn cs) } cs
      ∃ found, Faithful respond cs done.1 found done.2 ∧ done.2.script = [] := by
  refine ⟨fun rules cs => ⟨_, faithful_run rules cs, (accounts_fresh rules cs).script_eq⟩,
    fun respond cs => ?_⟩
  refine ⟨_, (faithful_run _ cs).congr fun sent b rest hsent => ?_, ?_⟩
  · exact respond.ofScript_script hsent
  · rw [(accounts_fresh _ cs).script_eq]
    exact List.drop_eq_nil_of_le (by rw [Responder.script, List.length_map, List.length_range])

/-- The frame that was pushed is cut to the buffer; the answer to the second frame sent comes next,
and then nothing. -/
example :
    (run { script := [fun _ => [], fun b => [b.reverse]] }
      [.send [1], .push [2, 3, 4], .send [5, 6], .receive [0, 0], .receive [0, 0, 0],
        .receive [7]]).1.filterMap Result.received? =
      [(2, [2, 3]), (2, [6, 5, 0]), (0, [7])] :=
  rfl

end PacketHost
