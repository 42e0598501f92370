import PacketHost.Proofs.Guarded.Operations
import PacketHost.Proofs.Recording
import PacketHost.Proofs.Unanswered

/-!
Sends after any history of polls and sends.

A send goes by what stands in the buffer, however much of it was received. That is the frame that a
poll has received last, laid over what earlier frames and answers have left there. With a device
that keeps a record of its calls the last frame can be read off the record, and the buffer it found
is that of a host that the history has come through (`Host.Passes`).
-/

namespace PacketHost

open Bytes Received Device

/-- No frame passes in the call, either way. -/
def Device.Event.IsIdle : Event → Prop
  | .receive outcome => ∀ b, outcome = .ok b → b = []
  | .send _ _ => False

/-- Frames are received by polls alone, and nothing else is added to the record of calls. -/
def Operation.PollsOrSends {δ : Type} : Operation (RecordingDevice δ) → Prop
  | .device change => ∀ d, (change d).calls = d.calls
  | .register _ _ | .poll | .udpSend _ | .tcpSend _ => True
  | .resolve _ _ | .ping _ _ | .resolveName _ _ _ => False

namespace Host

/-! ### Coming through a host -/

section Passes

variable {δ : Type} [FiniteDevice δ]

/-- Carrying out `ops` from `h` comes through `g`, with `rest` still to be done. A poll that takes a
frame is the reaction to it, and then another poll. -/
inductive Passes : Host δ → List (Operation δ) → Host δ → List (Operation δ) → Prop
  | here (h : Host δ) (ops : List (Operation δ)) : Passes h ops h ops
  | operate {h g : Host δ} {op : Operation δ} {ops rest : List (Operation δ)}
      (hrest : Passes (h.operate op).2 ops g rest) : Passes h (op :: ops) g rest
  | take {h h' g : Host δ} {b : Bytes} {ops rest : List (Operation δ)} (hb : b ≠ [])
      (hr : h.receive = (.ok b, h')) (hrest : Passes (h'.dispatch b.length) (.poll :: ops) g rest) :
      Passes h (.poll :: ops) g rest

lemma run_poll_of_frame {h h' : Host δ} {b : Bytes} (hb : b ≠ []) (hr : h.receive = (.ok b, h'))
    (ops : List (Operation δ)) :
    (h.run (.poll :: ops)).2 = ((h'.dispatch b.length).run (.poll :: ops)).2 := by
  simp only [run, Host.operate, h.poll_of_frame hb hr]

lemma Passes.run_eq {h g : Host δ} {ops rest : List (Operation δ)} (hp : h.Passes ops g rest) :
    (h.run ops).2 = (g.run rest).2 := by
  induction hp with
  | here => rfl
  | operate _ ih => exact ih
  | take hb hr _ ih => exact (run_poll_of_frame hb hr _).trans ih

lemma Passes.mem {h g : Host δ} {op : Operation δ} {ops rest : List (Operation δ)}
    (hp : h.Passes ops g rest) (hop : op ∈ rest) : op ∈ ops := by
  induction hp with
  | here => exact hop
  | operate _ ih => exact List.mem_cons_of_mem _ (ih hop)
  | take _ _ _ ih => exact ih hop

end Passes

/-! ### What is left alone -/

/-- Nothing has come between that a send goes by. -/
structure Undisturbed {δ : Type} (h k : Host δ) : Prop where
  frame_eq : k.frame = h.frame
  settings_eq : k.settings = h.settings

namespace Undisturbed

variable {δ : Type} {h k l : Host δ}

lemma refl (h : Host δ) : Undisturbed h h := ⟨rfl, rfl⟩

lemma trans (hk : Undisturbed h k) (kl : Undisturbed k l) : Undisturbed h l :=
  ⟨kl.frame_eq.trans hk.frame_eq, kl.settings_eq.trans hk.settings_eq⟩

end Undisturbed

variable {δ : Type} [FiniteDevice δ] {h : Host (RecordingDevice δ)} {f : Bytes}
  {op : Operation (RecordingDevice δ)} {ops : List (Operation (RecordingDevice δ))}
  {es before since : List Event}

/-! ### The record -/

/-- These calls have led from one host to the other. If no frame has passed in them, nothing has
come between. -/
structure Leads (h : Host (RecordingDevice δ)) (es : List Event) (k : Host (RecordingDevice δ)) :
    Prop where
  calls_eq : k.device.calls = h.device.calls ++ es
  undisturbed : (∀ e ∈ es, e.IsIdle) → Undisturbed h k

omit [FiniteDevice δ] in
lemma Leads.append {k l : Host (RecordingDevice δ)} {es es' : List Event} (hk : h.Leads es k)
    (kl : k.Leads es' l) : h.Leads (es ++ es') l where
  calls_eq := by rw [kl.calls_eq, hk.calls_eq, List.append_assoc]
  undisturbed hidle := by
    rw [List.forall_mem_append] at hidle
    exact (hk.undisturbed hidle.1).trans (kl.undisturbed hidle.2)

lemma leads_receive (h : Host (RecordingDevice δ)) :
    h.Leads [.receive h.receive.1] h.receive.2 := by
  refine ⟨?_, fun hidle => ?_⟩
  · rw [device_receive, result_receive]
    rfl
  · have hempty : ∀ b, h.receive.1 = .ok b → b = [] := hidle _ List.mem_cons_self
    unfold receive at hempty ⊢
    dsimp only at hempty ⊢
    split
    · exact ⟨rfl, rfl⟩
    next b hb =>
      rw [hb] at hempty
      rw [hempty b rfl, Frame.write_nil]
      exact ⟨rfl, rfl⟩

/-- What handing a frame to the device adds to the record. -/
def sending (d : RecordingDevice δ) (out : Option Bytes) : List Event :=
  (out.map fun b => .send b (Device.send b d).1).toList

lemma isSend_of_mem_sending {d : RecordingDevice δ} {out : Option Bytes} {e : Event}
    (he : e ∈ sending d out) : e.isSend = true := by
  rw [sending, Option.mem_toList, Option.map_eq_some_iff] at he
  obtain ⟨b, -, rfl⟩ := he
  rfl

lemma eq_none_of_idle {d : RecordingDevice δ} {out : Option Bytes}
    (hidle : ∀ e ∈ sending d out, e.IsIdle) : out = none := by
  cases out with
  | none => rfl
  | some b => exact (hidle _ List.mem_cons_self).elim

lemma calls_handed (d : RecordingDevice δ) (out : Option Bytes) :
    (Device.handed d out).calls = d.calls ++ sending d out := by
  cases out with
  | none => exact (List.append_nil _).symm
  | some b => rfl

/-- A send that hands nothing to the device has been refused. -/
lemma leads_answer (h : Host (RecordingDevice δ)) (data : Bytes) (t : Transport) :
    h.Leads (sending h.device (h.frame.prepare h.settings h.handlers data t).outgoing?)
      (answer data t h).2 := by
  rw [answer_eq, finish_eq]
  refine ⟨calls_handed _ _, fun hidle => ⟨?_, rfl⟩⟩
  rcases h.frame.refuses_or_admits data t with ⟨e, he⟩ | hadmits
  · exact congrArg Prepared.frame (Frame.prepare_of_refuses he)
  · obtain ⟨g, hg⟩ := Frame.exists_answers h.settings h.handlers hadmits
    rw [hg.outgoing?] at hidle
    cases eq_none_of_idle hidle

/-- A frame that is received is reacted to. -/
lemma leads_dispatch {h' : Host (RecordingDevice δ)} (hf : f ≠ []) (hr : h.receive = (.ok f, h')) :
    h.Leads (.receive (.ok f) :: sending h'.device (h.reaction f).outgoing?)
        (h'.dispatch f.length) ∧
      (h'.dispatch f.length).frame = (h.reaction f).frame ∧
      (h'.dispatch f.length).settings = h.settings := by
  have hreceive := h.leads_receive
  have hgiven : (Device.receive frameSize h.device).1 = .ok f := by rw [← h.result_receive, hr]
  obtain ⟨log, hdispatch⟩ :=
    { h with device := (Device.receive frameSize h.device).2 }.dispatch_eq f
  rw [hr] at hreceive
  rw [h.receive_of_ok f hgiven] at hr
  cases hr
  rw [hdispatch]
  refine ⟨⟨(calls_handed _ _).trans ?_, fun hidle => ?_⟩, rfl, rfl⟩
  · rw [List.append_cons]
    exact congrArg (· ++ _) hreceive.calls_eq
  · exact absurd (hidle _ List.mem_cons_self f rfl) hf

lemma leads_poll_of_error {reason : String} {h' : Host (RecordingDevice δ)}
    (hr : h.receive = (.error reason, h')) : h.Leads [.receive (.error reason)] h.poll.2 := by
  have hreceive := h.leads_receive
  rw [hr] at hreceive
  rw [h.poll_of_error hr]
  exact ⟨hreceive.calls_eq, fun hidle => (hreceive.undisturbed hidle).trans ⟨rfl, rfl⟩⟩

lemma leads_poll_of_empty {h' : Host (RecordingDevice δ)} (hr : h.receive = (.ok [], h')) :
    h.Leads [.receive (.ok [])] h.poll.2 := by
  have hreceive := h.leads_receive
  rw [hr] at hreceive
  rw [h.poll_of_empty hr]
  exact hreceive

lemma exists_leads_poll (h : Host (RecordingDevice δ)) : ∃ es, h.Leads es h.poll.2 := by
  induction h using Host.poll.induct with
  | case1 h reason h' hr => exact ⟨_, leads_poll_of_error hr⟩
  | case2 h h' hr => exact ⟨_, leads_poll_of_empty hr⟩
  | case3 h x b h' hr ih =>
    obtain ⟨es, hrest⟩ := ih
    have htake := (leads_dispatch (List.cons_ne_nil x b) hr).1
    rw [h.poll_of_frame (List.cons_ne_nil x b) hr]
    exact ⟨_, htake.append hrest⟩

lemma exists_leads_operate (h : Host (RecordingDevice δ)) (hop : op.PollsOrSends) :
    ∃ es, h.Leads es (h.operate op).2 ∧ (op ≠ .poll → ∀ e ∈ es, e.isSend = true) := by
  have hnone {k : Host (RecordingDevice δ)} (hcalls : k.device.calls = h.device.calls)
      (hk : h.Undisturbed k) : ∃ es, h.Leads es k ∧ (op ≠ .poll → ∀ e ∈ es, e.isSend = true) :=
    ⟨[], ⟨hcalls.trans (List.append_nil _).symm, fun _ => hk⟩, by simp⟩
  have hsend (data : Bytes) (t : Transport) : ∃ es, h.Leads es (answer data t h).2 ∧
      (op ≠ .poll → ∀ e ∈ es, e.isSend = true) :=
    ⟨_, h.leads_answer data t, fun _ e he => isSend_of_mem_sending he⟩
  cases op with
  | device change => exact hnone (hop h.device) ⟨rfl, rfl⟩
  | register handler binding => exact hnone rfl ⟨rfl, rfl⟩
  | poll =>
    obtain ⟨es, hes⟩ := h.exists_leads_poll
    exact ⟨es, hes, fun hne => absurd rfl hne⟩
  | udpSend data => exact hsend data .udp
  | tcpSend data => exact hsend data .tcp
  | resolve ip budget => exact hop.elim
  | ping ip budget => exact hop.elim
  | resolveName server name budget => exact hop.elim

lemma exists_leads_run (h : Host (RecordingDevice δ)) (hops : ∀ op ∈ ops, op.PollsOrSends) :
    ∃ es, h.Leads es (h.run ops).2 := by
  induction ops generalizing h with
  | nil => exact ⟨[], (List.append_nil _).symm, fun _ => .refl h⟩
  | cons op ops ih =>
    rw [List.forall_mem_cons] at hops
    obtain ⟨es, hes, -⟩ := h.exists_leads_operate hops.1
    obtain ⟨later, hlater⟩ := ih (h.operate op).2 hops.2
    exact ⟨_, hes.append hlater⟩

/-- A call that is not one of the first calls is one of the later ones. -/
lemma eq_append_of_not_mem {e : Event} {later : List Event}
    (h : es ++ later = before ++ e :: since) (he : e ∉ es) :
    ∃ between, before = es ++ between ∧ later = between ++ e :: since := by
  rcases List.append_eq_append_iff.1 h with ⟨between, hbefore, hlater⟩ | ⟨between, hes, hlater⟩
  · exact ⟨between, hbefore, hlater⟩
  · cases between with
    | nil => exact ⟨[], by rw [hes]; simp, hlater.symm⟩
    | cons e' between =>
      rw [List.cons_append] at hlater
      injection hlater with heq
      exact absurd (hes ▸ heq ▸ by simp) he

/-- The calls of a run begin with those of its first step. -/
lemma Leads.exists_later {h₁ : Host (RecordingDevice δ)} {all : List Event} (hes : h.Leads es h₁)
    (hops : ∀ op ∈ ops, op.PollsOrSends)
    (hcalls : (h₁.run ops).2.device.calls = h.device.calls ++ all) :
    ∃ later, h₁.Leads later (h₁.run ops).2 ∧ es ++ later = all := by
  obtain ⟨later, hlater⟩ := h₁.exists_leads_run hops
  refine ⟨later, hlater, ?_⟩
  rw [hlater.calls_eq, hes.calls_eq, List.append_assoc] at hcalls
  exact List.append_cancel_left hcalls

/-- After these calls the run comes to a poll that receives `f`. -/
def ComesTo (h : Host (RecordingDevice δ)) (ops : List (Operation (RecordingDevice δ)))
    (before : List Event) (f : Bytes) : Prop :=
  ∃ g rest, h.Passes ops g (.poll :: rest) ∧ g.device.calls = h.device.calls ++ before ∧
    g.receive.1 = .ok f

/-- The calls of the whole run are these, and in between `f` is received. -/
def Receives (h : Host (RecordingDevice δ)) (ops : List (Operation (RecordingDevice δ)))
    (before : List Event) (f : Bytes) (since : List Event) : Prop :=
  (h.run ops).2.device.calls = h.device.calls ++ (before ++ .receive (.ok f) :: since)

/-- If the first step is over before the frame is received, the rest of the run receives it. -/
lemma Leads.comesTo {h₁ : Host (RecordingDevice δ)} {ops₁ : List (Operation (RecordingDevice δ))}
    (hes : h.Leads es h₁)
    (hover : ∀ later, es ++ later = before ++ .receive (.ok f) :: since →
      ∃ between, before = es ++ between ∧ later = between ++ .receive (.ok f) :: since)
    (hpasses : ∀ g rest, h₁.Passes ops₁ g rest → h.Passes ops g rest)
    (hops : ∀ op ∈ ops₁, op.PollsOrSends)
    (hcalls : (h₁.run ops₁).2.device.calls =
      h.device.calls ++ (before ++ .receive (.ok f) :: since))
    (hrest : ∀ between, h₁.Receives ops₁ between f since → h₁.ComesTo ops₁ between f) :
    h.ComesTo ops before f := by
  obtain ⟨later, hlater, hall⟩ := hes.exists_later hops hcalls
  obtain ⟨between, rfl, rfl⟩ := hover later hall
  obtain ⟨g, rest, hg, hbefore, hgiven⟩ := hrest between hlater.calls_eq
  refine ⟨g, rest, hpasses g _ hg, ?_, hgiven⟩
  rw [hbefore, hes.calls_eq, List.append_assoc]

section ComesTo

variable (hops : ∀ op ∈ ops, op.PollsOrSends)
  (hrest : ∀ (k : Host (RecordingDevice δ)) between, k.Receives ops between f since →
    k.ComesTo ops between f)

include hops hrest

/-- An operation that does not receive the frame. -/
lemma comesTo_operate (hes : h.Leads es (h.operate op).2) (hmem : .receive (.ok f) ∉ es)
    (hcalls : h.Receives (op :: ops) before f since) : h.ComesTo (op :: ops) before f :=
  hes.comesTo (fun _ hall => eq_append_of_not_mem hall hmem) (fun _ _ hg => .operate hg) hops
    hcalls fun between hbetween => hrest _ between hbetween

/-- A poll receives it, or ends without having received it. -/
lemma comesTo_poll (hf : f ≠ []) (hcalls : h.Receives (.poll :: ops) before f since) :
    h.ComesTo (.poll :: ops) before f := by
  -- along the frames that the poll takes
  induction h using Host.poll.induct generalizing before with
  | case1 h reason h' hr =>
    exact comesTo_operate hops hrest (leads_poll_of_error hr) (by simp) hcalls
  | case2 h h' hr =>
    exact comesTo_operate hops hrest (leads_poll_of_empty hr) (by simp [hf]) hcalls
  | case3 h x b h' hr ih =>
    have hne : x :: b ≠ [] := List.cons_ne_nil x b
    have htake := (leads_dispatch hne hr).1
    have hpoll : ∀ op ∈ .poll :: ops, op.PollsOrSends := List.forall_mem_cons.2 ⟨⟨⟩, hops⟩
    rw [Receives, run_poll_of_frame hne hr] at hcalls
    cases before with
    | nil =>
      obtain ⟨later, -, hall⟩ := htake.exists_later hpoll hcalls
      injection hall with heq
      refine ⟨h, ops, .here h _, (List.append_nil _).symm, ?_⟩
      rw [hr, Event.receive.inj heq]
    | cons e before =>
      refine htake.comesTo (fun later hall => ?_) (fun _ _ hg => .take hne hr hg) hpoll hcalls
        fun between hbetween => ih hbetween
      -- what has been received first comes first
      injection hall with heq htail
      obtain ⟨between, rfl, hlater⟩ := eq_append_of_not_mem htail fun hmem => by
        cases isSend_of_mem_sending hmem
      exact ⟨between, by rw [heq]; rfl, hlater⟩

end ComesTo

/-- A frame that has been received was received in a poll. -/
lemma comesTo_of_receives (hf : f ≠ []) (h : Host (RecordingDevice δ))
    (hops : ∀ op ∈ ops, op.PollsOrSends) (hcalls : h.Receives ops before f since) :
    h.ComesTo ops before f := by
  induction ops generalizing h before with
  | nil => simp [Receives, run] at hcalls
  | cons op ops ih =>
    rw [List.forall_mem_cons] at hops
    have hrest (k : Host (RecordingDevice δ)) (between : List Event)
        (hbetween : k.Receives ops between f since) : k.ComesTo ops between f :=
      ih k hops.2 hbetween
    by_cases hpoll : op = .poll
    · subst hpoll
      exact comesTo_poll hops.2 hrest hf hcalls
    · obtain ⟨es, hes, hsend⟩ := h.exists_leads_operate hops.1
      refine comesTo_operate hops.2 hrest hes (fun hmem => ?_) hcalls
      cases hsend hpoll _ hmem

/-- If no frame passes after `f` has been received, what is left of it is in the buffer, and it has
not been answered. -/
lemma frame_of_idle {g k : Host (RecordingDevice δ)} (hf : f ≠ []) (hgiven : g.receive.1 = .ok f)
    (hops : ∀ op ∈ .poll :: ops, op.PollsOrSends) (hk : (g.run (.poll :: ops)).2 = k)
    (hcalls : k.device.calls = g.device.calls ++ .receive (.ok f) :: since)
    (hidle : ∀ e ∈ since, e.IsIdle) :
    (g.reaction f).outgoing? = none ∧ k.frame = (g.reaction f).frame ∧
      k.settings = g.settings := by
  have hr : g.receive = (.ok f, g.receive.2) := Prod.ext hgiven rfl
  rw [run_poll_of_frame hf hr] at hk
  subst hk
  obtain ⟨htake, hframe, hsettings⟩ := leads_dispatch hf hr
  obtain ⟨later, hlater, hall⟩ := htake.exists_later hops hcalls
  rw [List.cons_append, List.cons.injEq] at hall
  rw [← hall.2, List.forall_mem_append] at hidle
  have hstill := hlater.undisturbed hidle.2
  exact ⟨eq_none_of_idle hidle.1, hstill.frame_eq.trans hframe,
    hstill.settings_eq.trans hsettings⟩

/-! ### Sends -/

/-- The same comes of a send from a host with another buffer. -/
lemma answer_alike {δ : Type} [Device δ] {h : Host δ} {data : Bytes} {t : Transport} {g : Frame}
    (halike : Frame.PreparesAlike h.settings h.handlers data t h.frame g) :
    (answer data t h).1 = (answer data t { h with frame := g }).1 ∧
      (answer data t h).2.device = (answer data t { h with frame := g }).2.device := by
  rw [answer_eq, answer_eq]
  cases halike with
  | refused left right =>
    rw [left, right]
    exact ⟨rfl, rfl⟩
  | sent left right =>
    rw [finish_of_outgoing left, finish_of_outgoing right]
    exact ⟨rfl, rfl⟩

/-- How a host answers when `f` is the last frame that it has received, in a buffer with `left` in
it. -/
structure AnswersOver {δ : Type} [Device δ] (k : Host δ) (left : Frame) (f : Bytes) : Prop where
  mismatch : ∀ t data, ¬ (left.write 0 f).Stages t.protocol →
    answer data t k = (.error (.protocolMismatch t), k)
  staged : ∀ t data, (left.write 0 f).Stages t.protocol →
    (answer data t k).1 ≠ .error (.protocolMismatch t)
  /-- What is asked for is in the frame, unless that is shorter. -/
  decides : 24 ≤ f.length → ∀ protocol, (left.write 0 f).Stages protocol ↔
    word16At f 12 = 0x0800 ∧ byteAt f 14 = 0x45 ∧ byteAt f 23 = protocol
  /-- It makes no difference what was left if the headers are in the frame. -/
  alone : ∀ t data, HoldsHeaders f t →
    (answer data t k).1 = (answer data t { k with frame := .alone k.settings f }).1 ∧
      (answer data t k).2.device =
        (answer data t { k with frame := .alone k.settings f }).2.device

lemma answersOver_of_idle {g k : Host (RecordingDevice δ)} (hgiven : g.receive.1 = .ok f)
    (hquiet : (g.reaction f).outgoing? = none) (hframe : k.frame = (g.reaction f).frame)
    (hsettings : k.settings = g.settings) : k.AnswersOver g.frame f := by
  have hlength : f.length ≤ frameSize := by
    rw [result_receive] at hgiven
    exact Device.length_le_of_receive hgiven
  have hholds : (g.frame.write 0 f).Holds f := Frame.holds_write _ hlength
  have hstages (protocol : UInt8) : k.frame.Stages protocol ↔
      (g.frame.write 0 f).Stages protocol := by
    rw [hframe]
    exact (Frame.agreeOn_outer_of_quiet hholds hquiet).stages_iff (Nat.le_refl 34)
  refine ⟨fun t data hnot => ?_, fun t data hyes => ?_, fun hlen protocol => ?_,
    fun t data hheaders => ?_⟩
  · rw [answer_eq, Frame.prepare_of_refuses (Frame.refuses_mismatch (mt (hstages _).1 hnot))]
    rfl
  · rw [answer_eq]
    rcases k.frame.refuses_or_admits data t with ⟨e, he⟩ | hadmits
    · rw [Frame.prepare_of_refuses he]
      exact fun herror => he.ne_mismatch ((hstages _).2 hyes) (Except.error.inj herror)
    · obtain ⟨g', hg'⟩ := Frame.exists_answers k.settings k.handlers hadmits
      exact (sendsOnce_finish hg'.outgoing?).ne_error nofun
  · exact hholds.stages_iff hlen
  · refine answer_alike ?_
    rw [hframe, hsettings]
    exact Frame.prepares_alone hholds hquiet hheaders

end Host

/-- **A send goes by the buffer, and the buffer by the frame received last** as far as that reaches.
For every history of polls and sends, if `f` is the last frame that has been received, and nothing
has been handed to the device since, then it was received in a poll, into a buffer that can be told:
a send fails for the protocol just if `f`, laid over that buffer, is not the start of such a record.
A send answers `f` alone if `f` holds all of the headers. -/
theorem send_answers_buffer {δ : Type} [FiniteDevice δ] (h : Host (RecordingDevice δ))
    (ops : List (Operation (RecordingDevice δ))) (hops : ∀ op ∈ ops, op.PollsOrSends)
    {before since : List Event} {f : Bytes} (hf : f ≠ [])
    (hcalls : (h.run ops).2.device.calls =
      h.device.calls ++ (before ++ .receive (.ok f) :: since))
    (hsince : ∀ e ∈ since, e.IsIdle) :
    ∃ g rest, h.Passes ops g (.poll :: rest) ∧ g.device.calls = h.device.calls ++ before ∧
      g.receive.1 = .ok f ∧ (h.run ops).2.AnswersOver g.frame f := by
  obtain ⟨g, rest, hg, hbefore, hgiven⟩ := Host.comesTo_of_receives hf h hops hcalls
  rw [← List.append_assoc, ← hbefore] at hcalls
  obtain ⟨hquiet, hframe, hsettings⟩ := Host.frame_of_idle hf hgiven
    (fun op hop => hops op (hg.mem hop)) hg.run_eq.symm hcalls hsince
  exact ⟨g, rest, hg, hbefore, hgiven,
    Host.answersOver_of_idle hgiven hquiet hframe hsettings⟩

/-! ### Two frames -/

deriving instance DecidableEq for Device.Event

namespace Host

/-- A new host on a device in memory that keeps a record. -/
def recording (queue : List Bytes) : Host (RecordingDevice MemoryDevice) :=
  Host.new { inner := { queue } } {}

/-- These frames are pending, and nobody answers what is sent. -/
def Pending (h : Host (RecordingDevice MemoryDevice)) (queue : List Bytes) : Prop :=
  h.device.inner.queue = queue ∧ h.device.inner.script = []

lemma Pending.dispatch {h : Host (RecordingDevice MemoryDevice)} {queue : List Bytes}
    (hp : h.Pending queue) (len : Nat) : (h.dispatch len).Pending queue := by
  obtain ⟨hqueue, hscript⟩ := hp
  rcases h.device_dispatch len with hdevice | ⟨b, hdevice⟩
  · rw [Pending, hdevice]
    exact ⟨hqueue, hscript⟩
  · rw [Pending, hdevice]
    simp [Device.send, MemoryDevice.send, hscript, hqueue]

/-- A poll takes the first of them. -/
lemma Pending.poll {h : Host (RecordingDevice MemoryDevice)} {f : Bytes} {queue : List Bytes}
    (hp : h.Pending (f :: queue)) (hf : f ≠ []) (hlen : f.length ≤ frameSize) :
    h.poll.2 = (h.receive.2.dispatch f.length).poll.2 ∧
      (h.receive.2.dispatch f.length).Pending queue := by
  obtain ⟨hqueue, hscript⟩ := hp
  have hgiven : h.receive.1 = .ok f := by
    rw [result_receive]
    show Except.ok ((h.device.inner.queue.headD []).take frameSize) = .ok f
    rw [hqueue, List.headD_cons, List.take_of_length_le hlen]
  have hnext : h.receive.2.Pending queue := by
    rw [Pending, device_receive]
    exact ⟨congrArg List.tail hqueue, hscript⟩
  exact ⟨by rw [h.poll_of_frame hf (Prod.ext hgiven rfl)], hnext.dispatch _⟩

lemma Pending.poll_nil {h : Host (RecordingDevice MemoryDevice)} (hp : h.Pending []) :
    h.poll.2 = h.receive.2 := by
  have hgiven : h.receive.1 = .ok [] := by
    rw [result_receive]
    show Except.ok ((h.device.inner.queue.headD []).take frameSize) = .ok []
    rw [hp.1]
    rfl
  rw [h.poll_of_empty (Prod.ext hgiven rfl)]

lemma run_recording {a b : Bytes} (ha : a ≠ []) (hb : b ≠ []) (hla : a.length ≤ frameSize)
    (hlb : b.length ≤ frameSize) :
    ((recording [a, b]).run [.poll]).2 =
      (((recording [a, b]).receive.2.dispatch a.length).receive.2.dispatch b.length).receive.2 := by
  have hp : (recording [a, b]).Pending [a, b] := ⟨rfl, rfl⟩
  obtain ⟨hfirst, hp₁⟩ := hp.poll ha hla
  obtain ⟨hsecond, hp₂⟩ := hp₁.poll hb hlb
  exact (hfirst.trans hsecond).trans hp₂.poll_nil

end Host

/-- The start of a packet from a third machine. -/
def fragment : Bytes :=
  [0x02, 0, 0, 0, 0, 0x01, 0x02, 0, 0, 0, 0, 0x03, 0x08, 0x00, 0x45, 0, 0, 6, 0xaa, 0xaa]

/-- A segment whose header ends before the options that it announces. -/
def cutSegment : Bytes :=
  [0x02, 0, 0, 0, 0, 0x01, 0x02, 0, 0, 0, 0, 0x02, 0x08, 0x00,
    0x45, 0, 0, 40, 0x12, 0x34, 0, 0, 64, 6, 0, 0, 10, 0, 0, 2, 10, 0, 0, 1,
    0x0f, 0xa0, 0, 7, 0, 0, 0, 1, 0, 0, 0, 9, 0xf0, 0x18, 0x10, 0, 0, 0, 0, 0]

/-- A frame of another protocol. -/
def foreign : Bytes := List.replicate 12 0x02 ++ [0x88, 0xb5] ++ List.replicate 80 0x55

/-- **What is left in the buffer completes the headers of a shorter frame.** A fragment without a
UDP header is answered, to its sender, with the addresses of the datagram before it. A segment that
stops before its options is answered with what stood in their place. -/
theorem leftovers_complete_headers :
    let k := ((Host.recording [oddDatagram, fragment]).run [.poll]).2
    let k' := ((Host.recording [foreign, cutSegment]).run [.poll]).2
    (k.device.calls =
        [.receive (.ok oddDatagram), .receive (.ok fragment), .receive (.ok [])] ∧
      fragment.length = 20 ∧ (Host.udpSend [0x61, 0x62, 0x63] k).1 = .ok () ∧
      (Host.udpSend [0x61, 0x62, 0x63] k).2.device.inner.sent.map
          (fun b => ((ethernet b).dst, (ip b).id, (ip b).dst)) =
        [((ethernet fragment).src, 0xaaaa, (ip oddDatagram).src)]) ∧
    k'.device.calls =
        [.receive (.ok foreign), .receive (.ok cutSegment), .receive (.ok [])] ∧
      cutSegment.length = 54 ∧ (Host.tcpSend [0x61, 0x62] k').1 = .ok () ∧
      (Host.tcpSend [0x61, 0x62] k').2.device.inner.sent.map (fun b => slice b 55 94) =
        [List.replicate 39 0x55] := by
  dsimp only
  rw [Host.run_recording (by decide) (by decide) (by decide) (by decide),
    Host.run_recording (by decide) (by decide) (by decide) (by decide)]
  refine ⟨⟨?_, rfl, ?_, ?_⟩, ?_, rfl, ?_, ?_⟩
  · decide +kernel
  · decide +kernel
  · decide +kernel
  · decide +kernel
  · decide +kernel
  · decide +kernel

/-- The other way round the datagram is answered as if the fragment had never been there. -/
theorem send_answers_buffer_oddDatagram :
    let k := ((Host.recording [fragment, oddDatagram]).run [.poll]).2
    oddDatagram ≠ [] ∧
      k.device.calls =
        [] ++ ([.receive (.ok fragment)] ++ .receive (.ok oddDatagram) :: [.receive (.ok [])]) ∧
      (∀ e ∈ [Device.Event.receive (.ok [])], e.IsIdle) ∧
      ∀ data, (Host.udpSend data k).1 ≠ .error (.protocolMismatch .udp) ∧
        (Host.udpSend data k).2.device =
          (Host.udpSend data { k with frame := .alone k.settings oddDatagram }).2.device := by
  have hne : oddDatagram ≠ [] := by decide
  have hcalls : ((Host.recording [fragment, oddDatagram]).run [.poll]).2.device.calls =
      [] ++ ([.receive (.ok fragment)] ++ .receive (.ok oddDatagram) :: [.receive (.ok [])]) := by
    rw [Host.run_recording (by decide) hne (by decide) (by decide)]
    decide +kernel
  have hidle : ∀ e ∈ [Device.Event.receive (.ok [])], e.IsIdle := by
    simp [Device.Event.IsIdle]
  obtain ⟨g, -, -, -, -, hanswers⟩ := send_answers_buffer (Host.recording [fragment, oddDatagram])
    [.poll] (by simp [Operation.PollsOrSends]) hne hcalls hidle
  have hstages : (g.frame.write 0 oddDatagram).Stages IpProtocol.udp :=
    (hanswers.decides (by decide) _).2 (by decide)
  dsimp only
  generalize ((Host.recording [fragment, oddDatagram]).run [.poll]).2 = k at hcalls hanswers ⊢
  exact ⟨hne, hcalls, hidle, fun data => ⟨hanswers.staged .udp data hstages,
    (hanswers.alone .udp data (show 42 ≤ oddDatagram.length by decide)).2⟩⟩

end PacketHost
