import PacketHost.Proofs.Budget
import PacketHost.Proofs.Inquiring

/-!
Two hosts that ask the same.

Here are the rules for two runs of the same operation on two hosts that differ in their buffers,
their registries and what they have recorded. Their devices may differ as well, so long as they
cannot be told apart by what they give, or give frames that answer every question alike
(`LockstepUpto`). A rule for a step says what both runs have come to after it (`Alike`), and
`Alike.bind` puts the steps together. What the buffers have in common after a step is all that the
rest of the runs may read of them.
-/

namespace PacketHost

open Bytes Received

/-- The one frame begins with the other, and both answer every question alike. -/
structure Received.AnswersAlike (b b' : Bytes) : Prop where
  isPrefix : b <+: b'
  nil_iff : b = [] ↔ b' = []
  arp (ip : Ipv4Addr) : arpAnswer? ip b = arpAnswer? ip b'
  echo (self ip : Ipv4Addr) (identifier sequence : UInt16) :
    echoAnswer? self ip identifier sequence b = echoAnswer? self ip identifier sequence b'
  dns (server : Ipv4Addr) (port id : UInt16) :
    dnsAnswer? server port id b = dnsAnswer? server port id b'

lemma Received.AnswersAlike.refl (b : Bytes) : AnswersAlike b b where
  isPrefix := List.prefix_rfl
  nil_iff := Iff.rfl
  arp _ := rfl
  echo _ _ _ _ := rfl
  dns _ _ _ := rfl

lemma Frame.Holds.of_isPrefix {f : Frame} {b b' : Bytes} (hf : f.Holds b') (h : b <+: b') :
    f.Holds b := by
  obtain ⟨s, rfl⟩ := h
  have hle : b.length ≤ (b ++ s).length := by simp
  refine ⟨Nat.le_trans hle hf.length_le, fun i hi => ?_⟩
  rw [hf.byte_eq i (Nat.lt_of_lt_of_le hi hle), byteAt_append, if_pos hi]

namespace Device

variable {δ : Type} [Device δ] {R : δ → δ → Prop} {S : Bytes → Bytes → Prop}

/-- Related devices give the same to the same call, and are related after it. -/
structure Lockstep (R : δ → δ → Prop) : Prop where
  receive {d e : δ} : R d e →
    (Device.receive frameSize d).1 = (Device.receive frameSize e).1 ∧
      R (Device.receive frameSize d).2 (Device.receive frameSize e).2
  send {d e : δ} (b : Bytes) : R d e →
    (Device.send b d).1 = (Device.send b e).1 ∧ R (Device.send b d).2 (Device.send b e).2

/-- Two calls have failed for the same reason, or have given related frames. -/
inductive Given (S : Bytes → Bytes → Prop) : Except String Bytes → Except String Bytes → Prop
  | error (reason : String) : Given S (.error reason) (.error reason)
  | ok {b b' : Bytes} (h : S b b') : Given S (.ok b) (.ok b')

/-- Related devices give related frames, and do the same with the same frame. -/
structure LockstepUpto (S : Bytes → Bytes → Prop) (R : δ → δ → Prop) : Prop where
  alike {b b' : Bytes} : S b b' → AnswersAlike b b'
  receive {d e : δ} : R d e →
    Given S (Device.receive frameSize d).1 (Device.receive frameSize e).1 ∧
      R (Device.receive frameSize d).2 (Device.receive frameSize e).2
  send {d e : δ} (b : Bytes) : R d e →
    (Device.send b d).1 = (Device.send b e).1 ∧ R (Device.send b d).2 (Device.send b e).2

lemma given_eq_iff {r r' : Except String Bytes} : Given Eq r r' ↔ r = r' := by
  constructor
  · rintro (reason | rfl) <;> rfl
  · rintro rfl
    cases r with
    | error reason => exact .error reason
    | ok b => exact .ok rfl

lemma lockstep_iff : Lockstep R ↔ LockstepUpto Eq R := by
  constructor
  · intro hR
    refine ⟨?_, fun h => ?_, hR.send⟩
    · rintro b _ rfl
      exact .refl b
    · rw [given_eq_iff]
      exact hR.receive h
  · intro hR
    refine ⟨fun h => ?_, hR.send⟩
    rw [← given_eq_iff]
    exact hR.receive h

/-- The devices are related, and the same calls with the same outcomes have brought them here. -/
def Together (R : δ → δ → Prop) (d₀ e₀ d e : δ) : Prop :=
  R d e ∧ ∃ events, Trace d₀ events d ∧ Trace e₀ events e

lemma Together.refl {d e : δ} (h : R d e) : Together R d e d e := ⟨h, [], .nil d, .nil e⟩

lemma Lockstep.together (hR : Lockstep R) (d₀ e₀ : δ) : Lockstep (Together R d₀ e₀) where
  receive := by
    rintro d e ⟨hde, events, hd, he⟩
    obtain ⟨hsame, hnext⟩ := hR.receive hde
    refine ⟨hsame, hnext, _, hd.append (.receive (.nil _)), ?_⟩
    rw [hsame]
    exact he.append (.receive (.nil _))
  send := by
    rintro d e b ⟨hde, events, hd, he⟩
    obtain ⟨hsame, hnext⟩ := hR.send b hde
    refine ⟨hsame, hnext, _, hd.append (.send b (.nil _)), ?_⟩
    rw [hsame]
    exact he.append (.send b (.nil _))

end Device

namespace Host

open Device

variable {δ α β : Type}

/-- Two hosts that will ask the same: they have the same settings and counters. -/
structure Twins (R : δ → δ → Prop) (h g : Host δ) : Prop where
  device : R h.device g.device
  settings_eq : h.settings = g.settings
  pingSequence_eq : h.pingSequence = g.pingSequence
  dnsTransaction_eq : h.dnsTransaction = g.dnsTransaction

/-- Two runs have come to the same. If that is a value, the buffers have this to do with it. -/
structure Alike (R : δ → δ → Prop) (P : α → Frame → Frame → Prop)
    (x y : Except NetError α × Host δ) : Prop where
  result_eq : x.1 = y.1
  twins : Twins R x.2 y.2
  buffers (a : α) : x.1 = .ok a → P a x.2.frame y.2.frame

/-- Hosts remain twins whatever becomes of their buffers and their logs. -/
lemma Twins.moved {R : δ → δ → Prop} {h g : Host δ} (ht : Twins R h g) {d d' : δ} (hd : R d d')
    (f f' : Frame) (log log' : List Note) :
    Twins R { h with device := d, frame := f, log := log }
      { g with device := d', frame := f', log := log' } :=
  ⟨hd, ht.settings_eq, ht.pingSequence_eq, ht.dnsTransaction_eq⟩

section Rules

variable {R : δ → δ → Prop} {P : α → Frame → Frame → Prop} {Q : β → Frame → Frame → Prop}
  {h g : Host δ}

lemma Alike.ok (a : α) (ht : Twins R h g) (hP : P a h.frame g.frame) :
    Alike R P (.ok a, h) (.ok a, g) where
  result_eq := rfl
  twins := ht
  buffers a' ha := by cases ha; exact hP

lemma Alike.error (e : NetError) (ht : Twins R h g) : Alike R P (.error e, h) (.error e, g) where
  result_eq := rfl
  twins := ht
  buffers _ ha := nomatch ha

/-- A result that is there already. -/
lemma Twins.lift (ht : Twins R h g) (r : Except NetError α)
    (hP : ∀ a, r = .ok a → P a h.frame g.frame) :
    Alike R P ((liftM r : Task δ α) h) ((liftM r : Task δ α) g) :=
  ⟨rfl, ht, hP⟩

/-- One step after the other. -/
lemma Alike.bind {t t' : Task δ α} {f f' : α → Task δ β} (ht : Alike R P (t h) (t' g))
    (hf : ∀ a h' g', Twins R h' g' → P a h'.frame g'.frame → Alike R Q (f a h') (f' a g')) :
    Alike R Q ((t >>= f) h) ((t' >>= f') g) := by
  rw [Task.bind_apply, Task.bind_apply]
  obtain ⟨hresult, htwins, hbuffers⟩ := ht
  generalize t h = x at *
  generalize t' g = y at *
  obtain ⟨r, h'⟩ := x
  obtain ⟨r', g'⟩ := y
  cases hresult
  cases r with
  | error e => exact .error e htwins
  | ok a => exact hf a h' g' htwins (hbuffers a rfl)

end Rules

/-! ### Calls of the device -/

section Calls

variable [Device δ] {R : δ → δ → Prop} {S : Bytes → Bytes → Prop} {h g : Host δ} {b : Bytes}

/-- The buffers may have nothing in common. -/
abbrev Unlike : α → Frame → Frame → Prop := fun _ _ _ => True

/-- Both buffers hold the frame that was accepted. -/
def HoldAnswer (accept? : Bytes → Option α) (answer : α × Nat) (f f' : Frame) : Prop :=
  ∃ b, accept? b = some answer.1 ∧ f.Holds b ∧ f'.Holds b

lemma Twins.alike_of_send (ht : Twins R h g) (hR : LockstepUpto S R) (f f' : Frame) :
    Alike R Unlike
      ((Device.send b h.device).1.mapError NetError.device,
        { h with frame := f, device := (Device.send b h.device).2 })
      ((Device.send b g.device).1.mapError NetError.device,
        { g with frame := f', device := (Device.send b g.device).2 }) := by
  obtain ⟨hsame, hdevice⟩ := hR.send b ht.device
  refine ⟨?_, ht.moved hdevice f f' h.log g.log, fun _ _ => ⟨⟩⟩
  rw [hsame]

lemma Twins.transmit (ht : Twins R h g) (hR : LockstepUpto S R) {len : Nat}
    (hh : h.frame.slice 0 len = b) (hg : g.frame.slice 0 len = b) :
    Alike R Unlike (transmit len h) (transmit len g) := by
  rw [transmit_eq hh, transmit_eq hg]
  exact ht.alike_of_send hR h.frame g.frame

lemma Twins.finish (ht : Twins R h g) (hR : LockstepUpto S R) {p p' : Prepared}
    (hp : p.outgoing? = some b) (hp' : p'.outgoing? = some b) :
    Alike R Unlike (finish p h) (finish p' g) := by
  rw [finish_of_outgoing hp, finish_of_outgoing hp']
  exact ht.alike_of_send hR p.frame p'.frame

lemma Twins.waitLoop (ht : Twins R h g) (hR : LockstepUpto S R) {accept? : Bytes → Option α}
    (haccept : ∀ {b b'}, S b b' → accept? b = accept? b') (budget left : Nat) (seen : Bool) :
    Alike R (HoldAnswer accept?) (waitLoop accept? budget left seen h)
      (waitLoop accept? budget left seen g) := by
  -- both devices give the same answer at each poll, so both loops take the same branch
  induction left generalizing h g seen with
  | zero => exact .error _ ht
  | succ left ih =>
    obtain ⟨hgiven, hdevice⟩ := hR.receive ht.device
    rcases hr : Device.receive frameSize h.device with ⟨r, d⟩
    rcases hr' : Device.receive frameSize g.device with ⟨r', d'⟩
    rw [hr, hr'] at hgiven hdevice
    dsimp only at hgiven hdevice
    rcases hgiven with reason | @⟨b, b', hS⟩
    · rw [waitLoop_of_error hr, waitLoop_of_error hr']
      exact .error _ (ht.moved hdevice h.frame g.frame h.log g.log)
    have halike := hR.alike hS
    by_cases hb : b = [] ∨ accept? b = none
    · have hb' : b' = [] ∨ accept? b' = none := by
        rwa [← halike.nil_iff, ← haccept hS]
      obtain ⟨log, hloop⟩ := waitLoop_of_passes budget left seen hr hb
      obtain ⟨log', hloop'⟩ := waitLoop_of_passes budget left seen hr' hb'
      have hempty : b.isEmpty = b'.isEmpty := by
        rw [Bool.eq_iff_iff, List.isEmpty_iff, List.isEmpty_iff]
        exact halike.nil_iff
      rw [hloop, hloop', hempty]
      exact ih (ht.moved hdevice _ _ log log') _
    · obtain ⟨hne, hsome⟩ := not_or.1 hb
      obtain ⟨a, ha⟩ := Option.ne_none_iff_exists'.1 hsome
      have hne' : b' ≠ [] := mt halike.nil_iff.2 hne
      have ha' : accept? b' = some a := by
        rw [← haccept hS, ha]
      have hlen' : b'.length ≤ frameSize := Device.length_le_of_receive (by rw [hr'])
      have hlen : b.length ≤ frameSize := Nat.le_trans halike.isPrefix.length_le hlen'
      rw [waitLoop_of_accepted hr hne ha, waitLoop_of_accepted hr' hne' ha']
      refine .ok _ (ht.moved hdevice _ _ h.log g.log) ?_
      exact ⟨b, ha, h.frame.holds_write hlen,
        (g.frame.holds_write hlen').of_isPrefix halike.isPrefix⟩

lemma Twins.waitFor (ht : Twins R h g) (hR : LockstepUpto S R) (budget : Nat)
    {accept? : Bytes → Option α} (haccept : ∀ {b b'}, S b b' → accept? b = accept? b') :
    Alike R (HoldAnswer accept?) (waitFor budget accept? h) (waitFor budget accept? g) :=
  ht.waitLoop hR haccept budget budget false

end Calls

/-! ### Questions -/

section Questions

variable [Device δ] {R : δ → δ → Prop} {S : Bytes → Bytes → Prop} {h g : Host δ}

lemma Twins.resolve (ht : Twins R h g) (hR : LockstepUpto S R) (ip : Ipv4Addr) (budget : Nat) :
    Alike R Unlike (resolve ip budget h) (resolve ip budget g) := by
  have hstaged : (h.frame.stageArpRequest h.settings ip).slice 0 42 = arpRequest g.settings ip := by
    rw [Frame.slice_stageArpRequest, ht.settings_eq]
  have hstaged' := g.frame.slice_stageArpRequest g.settings ip
  unfold Host.resolve
  simp only [Task.modify_bind]
  refine ((ht.moved ht.device _ _ h.log g.log).transmit hR hstaged hstaged').bind
    fun _ h₁ g₁ ht₁ _ => ?_
  refine (ht₁.waitFor hR budget fun hS => (hR.alike hS).arp ip).bind fun answer h₂ g₂ ht₂ _ => ?_
  exact .ok answer.1 (ht₂.moved ht₂.device _ _ _ _) ⟨⟩

lemma Twins.ping (ht : Twins R h g) (hR : LockstepUpto S R) (ip : Ipv4Addr) (budget : Nat) :
    Alike R Unlike (ping ip budget h) (ping ip budget g) := by
  unfold Host.ping
  refine (ht.resolve hR ip budget).bind fun hw h₁ g₁ ht₁ _ => ?_
  have hsequence : h₁.pingSequence + 1 = g₁.pingSequence + 1 :=
    congrArg (· + 1) ht₁.pingSequence_eq
  -- the request is staged in buffers that need not have anything in common
  have hstaged := Frame.outgoing?_stageEchoRequest h₁.settings h₁.frame hw ip (h₁.pingSequence + 1)
  have hstaged' := Frame.outgoing?_stageEchoRequest g₁.settings g₁.frame hw ip (g₁.pingSequence + 1)
  have ht₂ : Twins R { h₁ with pingSequence := h₁.pingSequence + 1 }
      { g₁ with pingSequence := g₁.pingSequence + 1 } :=
    ⟨ht₁.device, ht₁.settings_eq, hsequence, ht₁.dnsTransaction_eq⟩
  simp only [Task.modify_bind, Task.get_bind]
  rw [ht₁.settings_eq, hsequence] at hstaged ht₂ ⊢
  refine (ht₂.finish hR hstaged hstaged').bind fun _ h₃ g₃ ht₃ _ => ?_
  refine (ht₃.waitFor hR budget fun hS => (hR.alike hS).echo _ _ _ _).bind
    fun answer h₄ g₄ ht₄ _ => ?_
  exact .ok answer.2 (ht₄.moved ht₄.device _ _ _ _) ⟨⟩

/-- Both buffers hold the message, and the address is read from it. -/
lemma get_of_holdAnswer {server : Ipv4Addr} {port id : UInt16} {answer : Bytes × Nat}
    {f f' : Frame} {off : Nat} (hf : HoldAnswer (dnsAnswer? server port id) answer f f')
    (hoff : Dns.answerOffset answer.1 = .ok off) :
    f.get Ipv4Addr (udpDataOffset + off) = f'.get Ipv4Addr (udpDataOffset + off) := by
  obtain ⟨b, hb, hholds, hholds'⟩ := hf
  have hmessage : datagramData b = answer.1 := (dnsAnswer?_eq_some.1 hb).2
  have hfit : udpDataOffset + off + 4 ≤ b.length := by
    have hle := Dns.answerOffset_le hoff
    have hlen := length_datagramData_le b
    rw [hmessage] at hlen
    omega
  exact (hholds.agreeOn hholds').get_eq (Nat.zero_le _) hfit

lemma Twins.resolveName (ht : Twins R h g) (hR : LockstepUpto S R) (server : Ipv4Addr)
    (name : String) (budget : Nat) :
    Alike R Unlike (resolveName server name budget h) (resolveName server name budget g) := by
  unfold Host.resolveName
  refine (ht.resolve hR server budget).bind fun hw h₁ g₁ ht₁ _ => ?_
  simp only [Task.modify_bind, Task.get_bind]
  rw [ht₁.settings_eq, ht₁.dnsTransaction_eq, Frame.stageQuery_fst, Frame.stageQuery_fst]
  refine Alike.bind (P := fun n _ _ => Dns.queryLength name 1471 = .ok n) ?_
    fun n h₂ g₂ ht₂ hn => ?_
  · refine Twins.lift ?_ _ fun _ hn => hn
    exact ⟨ht₁.device, rfl, ht₁.pingSequence_eq, rfl⟩
  refine (ht₂.finish hR (Frame.outgoing?_of_queryLength _ h₁.frame hw server _ hn)
    (Frame.outgoing?_of_queryLength _ g₁.frame hw server _ hn)).bind fun _ h₃ g₃ ht₃ _ => ?_
  simp only [Task.modify_bind]
  refine ((ht₃.moved ht₃.device _ _ _ _).waitFor hR budget fun hS => (hR.alike hS).dns _ _ _).bind
    fun answer h₄ g₄ ht₄ hanswer => ?_
  refine Alike.bind (P := fun off f f' => f.get Ipv4Addr (udpDataOffset + off) =
    f'.get Ipv4Addr (udpDataOffset + off)) ?_ fun off h₅ g₅ ht₅ haddress => ?_
  · exact ht₄.lift _ fun off => get_of_holdAnswer hanswer
  refine ⟨?_, ht₅.moved ht₅.device _ _ _ _, fun _ _ => ⟨⟩⟩
  exact congrArg (fun address => Except.ok (NameAnswer.mk (udpDataOffset + off) address)) haddress

end Questions

end Host

end PacketHost
