import Mathlib.Data.List.Forall2
import PacketHost.Proofs.Lookup
import PacketHost.Proofs.Oblivious
import PacketHost.Proofs.Polling
import PacketHost.Proofs.SumField
import PacketHost.Proofs.Validation

/-!
Two runs of a host, one that leaves UDP checksums out and one that fills them in.

The runs part with the first datagram that is sent (`Host.Parted`). From then on the devices differ
in what they have been sent, and the buffers in what has been left there. But no peer that takes the
one datagram for the other makes a difference between them, and nothing is answered with what stands
in the buffer behind the frame received last, so that the runs never differ in anything else.
-/

namespace PacketHost

open Bytes Received Device

/-! ### Devices that differ in what they have been sent -/

/-- Related frames are answered alike. -/
def MemoryDevice.Heedless (T : Bytes → Bytes → Prop) (rule : Bytes → List Bytes) : Prop :=
  ∀ {b b' : Bytes}, T b b' → rule b = rule b'

namespace FaultyDevice

open MemoryDevice

/-- Nothing tells the devices apart but what they have been sent. -/
def SameButSent (d e : FaultyDevice MemoryDevice) : Prop :=
  e = { d with inner := { d.inner with sent := e.inner.sent } }

/-- Since `d₀` the devices have been sent frames that are related one by one. Nothing else tells
them apart, nor will their peer. -/
structure SentApart (T : Bytes → Bytes → Prop) (d₀ d e : FaultyDevice MemoryDevice) : Prop where
  same : SameButSent d e
  heedless : ∀ rule ∈ d.inner.script, Heedless T rule
  sent : ∃ xs ys, d.inner.sent = d₀.inner.sent ++ xs ∧ e.inner.sent = d₀.inner.sent ++ ys ∧
    List.Forall₂ T xs ys

variable {T : Bytes → Bytes → Prop} {d₀ d e : FaultyDevice MemoryDevice} {b b' : Bytes}

lemma SameButSent.receive (h : SameButSent d e) :
    (Device.receive frameSize d).1 = (Device.receive frameSize e).1 ∧
      SameButSent (Device.receive frameSize d).2 (Device.receive frameSize e).2 := by
  unfold SameButSent at h ⊢
  rw [h]
  simp only [Device.receive, FaultyDevice.receive]
  cases d.receivePlan.current? <;> exact ⟨rfl, rfl⟩

lemma SameButSent.send (h : SameButSent d e) (hrule : ∀ rule ∈ d.inner.script, rule b = rule b') :
    (Device.send b d).1 = (Device.send b' e).1 ∧
      SameButSent (Device.send b d).2 (Device.send b' e).2 := by
  unfold SameButSent at h ⊢
  rw [h]
  simp only [Device.send, FaultyDevice.send]
  cases d.sendPlan.current? with
  | some reason => exact ⟨rfl, rfl⟩
  | none =>
    refine ⟨rfl, ?_⟩
    cases hscript : d.inner.script with
    | nil => simp [MemoryDevice.send, hscript]
    | cons rule rules =>
      simp [MemoryDevice.send, hscript, hrule rule (by simp [hscript])]

/-- Rules are used up, and none is added. -/
lemma mem_script_of_send {rule : Bytes → List Bytes}
    (h : rule ∈ (Device.send b d).2.inner.script) : rule ∈ d.inner.script := by
  simp only [Device.send, FaultyDevice.send] at h
  split at h
  · exact h
  · exact List.mem_of_mem_tail h

namespace SentApart

lemma refl (h : ∀ rule ∈ d.inner.script, Heedless T rule) : SentApart T d d d where
  same := rfl
  heedless := h
  sent := ⟨[], [], (List.append_nil _).symm, (List.append_nil _).symm, .nil⟩

lemma receive (h : SentApart T d₀ d e) :
    (Device.receive frameSize d).1 = (Device.receive frameSize e).1 ∧
      SentApart T d₀ (Device.receive frameSize d).2 (Device.receive frameSize e).2 := by
  have hkept (k : FaultyDevice MemoryDevice) :
      (Device.receive frameSize k).2.inner.sent = k.inner.sent ∧
        (Device.receive frameSize k).2.inner.script = k.inner.script := by
    simp only [Device.receive, FaultyDevice.receive]
    split <;> exact ⟨rfl, rfl⟩
  obtain ⟨hsame, hnext⟩ := h.same.receive
  refine ⟨hsame, hnext, ?_, ?_⟩
  · rw [(hkept d).2]
    exact h.heedless
  · rw [(hkept d).1, (hkept e).1]
    exact h.sent

/-- Where a send is not made to fail the peer answers both frames alike. -/
lemma send (h : SentApart T d₀ d e) (hT : T b b') :
    (Device.send b d).1 = (Device.send b' e).1 ∧
      SentApart T d₀ (Device.send b d).2 (Device.send b' e).2 := by
  obtain ⟨hsame, hnext⟩ := h.same.send fun rule hrule => h.heedless rule hrule hT
  refine ⟨hsame, hnext, fun rule hrule => h.heedless rule (mem_script_of_send hrule), ?_⟩
  obtain ⟨xs, ys, hd, he, hsent⟩ := h.sent
  have hplan : d.sendPlan = e.sendPlan := by rw [h.same]
  simp only [Device.send, FaultyDevice.send, ← hplan]
  split
  · exact ⟨xs, ys, hd, he, hsent⟩
  · refine ⟨xs ++ [b], ys ++ [b'], ?_, ?_, List.rel_append hsent (.cons hT .nil)⟩
    · rw [← List.append_assoc, ← hd]
      rfl
    · rw [← List.append_assoc, ← he]
      rfl

lemma handed (h : SentApart T d₀ d e) {x y : Option Bytes} (hxy : Option.Rel T x y) :
    SentApart T d₀ (Device.handed d x) (Device.handed e y) := by
  cases hxy with
  | none => exact h
  | some hT => exact (h.send hT).2

end SentApart

end FaultyDevice

/-! ### Queries -/

/-- A query is the datagram that is sent in answer to a staged record. -/
lemma Frame.sameButSum_nameQuery (s : Settings) (hw : MacAddr) (server : Ipv4Addr) (id : UInt16)
    {name : String} {n : Nat} (hn : Dns.queryLength name 1471 = .ok n) :
    SameButSum (nameQuery (s.filling false) hw server id name)
      (nameQuery (s.filling true) hw server id name) := by
  have hlen : n ≤ 1471 := by
    obtain ⟨rfl, -, hroom⟩ := Dns.queryLength_eq_ok.1 hn
    exact hroom
  generalize hstaged :
    ((Frame.blank.stagePacket s hw IpProtocol.udp server id).stageQuery s id name).2 = staged
  have heth : (staged.get EthernetHeader 0).etherType = EtherType.ipv4 := by
    have hfront : Frame.AgreeOn 0 ipOffset staged
        (Frame.blank.put 0 (EthernetHeader.mk s.mac hw EtherType.ipv4)) := by
      rw [← hstaged]
      exact ((Frame.agreeOn_write (.inr (by decide))).trans
        (Frame.agreeOn_put (.inr (by decide)))).trans (Frame.agreeOn_put (.inr (by decide)))
    rw [hfront.get_ethernet (by decide), Frame.get_put_ethernet]
  have hquery (fill : Bool) :
      nameQuery (s.filling fill) hw server id name = staged.sentDatagram (s.filling fill) n := by
    have hout := Frame.outgoing?_of_queryLength (s.filling fill) .blank hw server id hn
    have hsent : (staged.answerUdp (s.filling fill) n).outgoing? =
        some (nameQuery (s.filling fill) hw server id name) := by
      rw [← hstaged]
      exact hout
    rw [Frame.outgoing?_answerUdp _ _ hlen] at hsent
    exact (Option.some.inj hsent).symm
  rw [hquery, hquery]
  exact .udp (Frame.givenSum_sentDatagram heth hlen)

/-! ### Hosts that differ in the flag -/

namespace Host

open FaultyDevice

/-- The host with UDP checksums filled in or left out. -/
def filling {δ : Type} (h : Host δ) (fill : Bool) : Host δ :=
  { h with settings := h.settings.filling fill }

/-- The one leaves checksums out and the other fills them in. So far the same has come of both. -/
structure Parted (s : Settings) (r : Registry) (d₀ : FaultyDevice MemoryDevice)
    (h g : Host (FaultyDevice MemoryDevice)) : Prop where
  settings_left : h.settings = s.filling false
  settings_right : g.settings = s.filling true
  handlers_left : h.handlers = r
  handlers_right : g.handlers = r
  dnsTransaction_eq : h.dnsTransaction = g.dnsTransaction
  deliveries_eq : h.deliveries = g.deliveries
  device : SentApart SameButSum d₀ h.device g.device

/-- What has been received is in the buffer. -/
lemma holds_of_receive {δ : Type} [Device δ] {h h' : Host δ} {b : Bytes}
    (hr : h.receive = (.ok b, h')) : h'.frame.Holds b := by
  have hgiven : (Device.receive frameSize h.device).1 = .ok b := by rw [← h.result_receive, hr]
  rw [h.receive_of_ok b hgiven] at hr
  cases hr
  exact Frame.holds_write _ (Device.length_le_of_receive hgiven)

namespace Parted

variable {s : Settings} {r : Registry} {d₀ : FaultyDevice MemoryDevice}
  {h h' g : Host (FaultyDevice MemoryDevice)} {b : Bytes}

/-- Whatever becomes of the buffers and the logs. -/
lemma moved (hs : Parted s r d₀ h g) {d e : FaultyDevice MemoryDevice}
    (hd : SentApart SameButSum d₀ d e) (f f' : Frame) (log log' : List Note) :
    Parted s r d₀ { h with device := d, frame := f, log := log }
      { g with device := e, frame := f', log := log' } where
  settings_left := hs.settings_left
  settings_right := hs.settings_right
  handlers_left := hs.handlers_left
  handlers_right := hs.handlers_right
  dnsTransaction_eq := hs.dnsTransaction_eq
  deliveries_eq := hs.deliveries_eq
  device := hd

/-- The device gives both the same. -/
lemma receive (hs : Parted s r d₀ h g) {given : Except String Bytes}
    (hreceive : h.receive = (given, h')) :
    g.receive = (given, g.receive.2) ∧ Parted s r d₀ h' g.receive.2 := by
  obtain ⟨hsame, hdevice⟩ := hs.device.receive
  have hmoved (k : Host (FaultyDevice MemoryDevice)) : k.receive.2 =
      { k with device := (Device.receive frameSize k.device).2, frame := k.receive.2.frame } := by
    unfold Host.receive
    dsimp only
    split <;> rfl
  have hgiven : g.receive.1 = given := by
    rw [g.result_receive, ← hsame, ← h.result_receive, hreceive]
  refine ⟨Prod.ext hgiven rfl, ?_⟩
  have hh' : h' = h.receive.2 := by rw [hreceive]
  rw [hh', hmoved h, hmoved g]
  exact hs.moved hdevice _ _ h.log g.log

/-! ### Polling -/

/-- The buffers have the frame in common, and need have nothing else. -/
lemma dispatch (hs : Parted s r d₀ h g) (hr : r.Stateless) (hh : h.frame.Holds b)
    (hg : g.frame.Holds b) : Parted s r d₀ (h.dispatch b.length) (g.dispatch b.length) := by
  obtain ⟨log, hdispatch⟩ := h.carryOut_eq
    (h.frame.react h.settings h.handlers h.deliveries.length b.length)
  obtain ⟨log', hdispatch'⟩ := g.carryOut_eq
    (g.frame.react g.settings g.handlers g.deliveries.length b.length)
  rw [Host.dispatch, Host.dispatch, hdispatch, hdispatch']
  rw [hs.settings_left, hs.settings_right, hs.handlers_left, hs.handlers_right]
  exact
    { settings_left := rfl
      settings_right := rfl
      handlers_left := rfl
      handlers_right := rfl
      dnsTransaction_eq := hs.dnsTransaction_eq
      deliveries_eq := by
        dsimp only
        rw [Frame.delivery_filling hh, Frame.delivery_congr hh hg hr, hs.deliveries_eq]
      device := by
        refine hs.device.handed ?_
        rw [← Frame.outgoing?_congr hh hg hr]
        exact Frame.outgoing?_filling hh }

lemma poll (hs : Parted s r d₀ h g) (hr : r.Stateless) :
    h.poll.1 = g.poll.1 ∧ Parted s r d₀ h.poll.2 g.poll.2 := by
  -- along the calls of the one; the other makes the same
  induction h using Host.poll.induct generalizing g with
  | case1 h reason h' hreceive =>
    obtain ⟨hreceive', hnext⟩ := hs.receive hreceive
    rw [h.poll_of_error hreceive, g.poll_of_error hreceive']
    exact ⟨rfl, hnext.moved hnext.device _ _ _ _⟩
  | case2 h h' hreceive =>
    obtain ⟨hreceive', hnext⟩ := hs.receive hreceive
    rw [h.poll_of_empty hreceive, g.poll_of_empty hreceive']
    exact ⟨rfl, hnext⟩
  | case3 h x b h' hreceive ih =>
    obtain ⟨hreceive', hnext⟩ := hs.receive hreceive
    obtain ⟨hcount, hlast⟩ :=
      ih (hnext.dispatch hr (holds_of_receive hreceive) (holds_of_receive hreceive'))
    rw [h.poll_of_frame (List.cons_ne_nil x b) hreceive,
      g.poll_of_frame (List.cons_ne_nil x b) hreceive', ← hcount]
    exact ⟨rfl, hlast⟩

end Parted

/-! ### Tasks -/

/-- Both runs have come to the same result. If that is a value, the buffers have this to do with it.
-/
structure Agree {α : Type} (s : Settings) (r : Registry) (d₀ : FaultyDevice MemoryDevice)
    (P : α → Frame → Frame → Prop)
    (x y : Except NetError α × Host (FaultyDevice MemoryDevice)) : Prop where
  result_eq : x.1 = y.1
  parted : Parted s r d₀ x.2 y.2
  buffers (a : α) : x.1 = .ok a → P a x.2.frame y.2.frame

section Agree

variable {α β : Type} {s : Settings} {r : Registry} {d₀ : FaultyDevice MemoryDevice}
  {h g : Host (FaultyDevice MemoryDevice)} {P : α → Frame → Frame → Prop}
  {Q : β → Frame → Frame → Prop} {p p' : Prepared} {b b' : Bytes}

lemma Parted.agree_error (hs : Parted s r d₀ h g) (e : NetError) :
    Agree s r d₀ P (.error e, h) (.error e, g) :=
  ⟨rfl, hs, fun _ ha => nomatch ha⟩

/-- One step after the other. -/
lemma Agree.bind {t t' : Task (FaultyDevice MemoryDevice) α}
    {f f' : α → Task (FaultyDevice MemoryDevice) β} (ht : Agree s r d₀ P (t h) (t' g))
    (hf : ∀ a h' g', Parted s r d₀ h' g' → P a h'.frame g'.frame →
      Agree s r d₀ Q (f a h') (f' a g')) :
    Agree s r d₀ Q ((t >>= f) h) ((t' >>= f') g) := by
  rw [Task.bind_apply, Task.bind_apply]
  obtain ⟨hresult, hparted, hbuffers⟩ := ht
  generalize t h = x at *
  generalize t' g = y at *
  obtain ⟨result, h'⟩ := x
  obtain ⟨result', g'⟩ := y
  cases hresult
  cases result with
  | error e => exact hparted.agree_error e
  | ok a => exact hf a h' g' hparted (hbuffers a rfl)

namespace Parted

/-- Sending frames that are the same but for UDP checksums. -/
lemma agree_of_send (hs : Parted s r d₀ h g) (hsum : SameButSum b b') (f f' : Frame) :
    Agree s r d₀ Unlike
      ((Device.send b h.device).1.mapError NetError.device,
        { h with frame := f, device := (Device.send b h.device).2 })
      ((Device.send b' g.device).1.mapError NetError.device,
        { g with frame := f', device := (Device.send b' g.device).2 }) := by
  obtain ⟨hsame, hnext⟩ := hs.device.send hsum
  rw [hsame]
  exact ⟨rfl, hs.moved hnext f f' h.log g.log, fun _ _ => ⟨⟩⟩

lemma finish (hs : Parted s r d₀ h g) (hsum : SameButSum b b') (hp : p.outgoing? = some b)
    (hp' : p'.outgoing? = some b') :
    Agree s r d₀ Unlike (Host.finish p h) (Host.finish p' g) := by
  rw [finish_of_outgoing hp, finish_of_outgoing hp']
  exact hs.agree_of_send hsum p.frame p'.frame

lemma transmit (hs : Parted s r d₀ h g) (hsum : SameButSum b b') {len : Nat}
    (hh : h.frame.slice 0 len = b) (hg : g.frame.slice 0 len = b') :
    Agree s r d₀ Unlike (Host.transmit len h) (Host.transmit len g) := by
  rw [transmit_eq hh, transmit_eq hg]
  exact hs.agree_of_send hsum h.frame g.frame

lemma waitFor (hs : Parted s r d₀ h g) (budget : Nat) (accept? : Bytes → Option α) :
    Agree s r d₀ (HoldAnswer accept?) (Host.waitFor budget accept? h)
      (Host.waitFor budget accept? g) := by
  have hloop (left : Nat) (seen : Bool) : Agree s r d₀ (HoldAnswer accept?)
      (waitLoop accept? budget left seen h) (waitLoop accept? budget left seen g) := by
    induction left generalizing h g seen with
    | zero => exact hs.agree_error _
    | succ left ih =>
      rcases hreceive : h.receive with ⟨given, h'⟩
      obtain ⟨hreceive', hnext⟩ := hs.receive hreceive
      rw [waitLoop, waitLoop, hreceive, hreceive']
      rcases given with reason | ⟨- | ⟨x, b⟩⟩
      · exact hnext.agree_error _
      · exact ih hnext seen
      · dsimp only
        cases ha : accept? (x :: b) with
        | none => exact ih (hnext.moved hnext.device _ _ _ _) true
        | some a =>
          refine ⟨rfl, hnext, fun answer hanswer => ?_⟩
          cases hanswer
          exact ⟨x :: b, ha, holds_of_receive hreceive, holds_of_receive hreceive'⟩
  exact hloop budget false

lemma resolve (hs : Parted s r d₀ h g) (ip : Ipv4Addr) (budget : Nat) :
    Agree s r d₀ Unlike (Host.resolve ip budget h) (Host.resolve ip budget g) := by
  have hrequest : arpRequest h.settings ip = arpRequest g.settings ip := by
    rw [hs.settings_left, hs.settings_right]
    rfl
  have hsum : SameButSum (arpRequest h.settings ip) (arpRequest h.settings ip) :=
    .other fun hudp => by
      have htype := hudp.etherType
      rw [arpRequest, ethernet_arpFrame] at htype
      exact absurd htype (show EtherType.arp ≠ EtherType.ipv4 by decide)
  unfold Host.resolve
  simp only [Task.modify_bind]
  refine Agree.bind (P := Unlike) ?_ fun _ h₁ g₁ hs₁ _ => ?_
  · exact (hs.moved hs.device _ _ h.log g.log).transmit hsum (h.frame.slice_stageArpRequest _ ip)
      (hrequest ▸ g.frame.slice_stageArpRequest _ ip)
  refine (hs₁.waitFor budget _).bind fun answer h₂ g₂ hs₂ _ => ?_
  exact ⟨rfl, hs₂.moved hs₂.device _ _ _ _, fun _ _ => ⟨⟩⟩

/-- A send is refused for the length of the data and for what is in the buffer. -/
lemma udpSend (hs : Parted s r d₀ (h.filling false) (h.filling true)) (data : Bytes) :
    Agree s r d₀ Unlike (Host.udpSend data (h.filling false))
      (Host.udpSend data (h.filling true)) := by
  rw [Host.udpSend, Task.get_bind, Task.get_bind]
  show Agree s r d₀ Unlike
    (Host.finish (h.frame.sendUdp (h.settings.filling false) data) (h.filling false))
    (Host.finish (h.frame.sendUdp (h.settings.filling true) data) (h.filling true))
  rcases h.frame.udpRefusal_or data.length with ⟨e, he⟩ | ⟨hstages, hlen⟩
  · rw [Frame.sendUdp_of_refusal he, Frame.sendUdp_of_refusal he]
    exact hs.agree_error e
  · have hfront : Frame.AgreeOn 0 udpDataOffset (h.frame.write udpDataOffset data) h.frame :=
      Frame.agreeOn_write (.inr (Nat.le_refl _))
    have heth : ((h.frame.write udpDataOffset data).get EthernetHeader 0).etherType =
        EtherType.ipv4 := by
      rw [hfront.get_ethernet (by decide)]
      exact hstages.1
    have hout (fill : Bool) : (h.frame.sendUdp (h.settings.filling fill) data).outgoing? =
        some ((h.frame.write udpDataOffset data).sentDatagram (h.settings.filling fill)
          data.length) := by
      rw [Frame.sendUdp_of_stages hstages hlen, ← Frame.answerUdp_of_le _ _ hlen]
      exact Frame.outgoing?_answerUdp _ _ hlen
    exact hs.finish (.udp (Frame.givenSum_sentDatagram heth hlen)) (hout false) (hout true)

lemma readAnswer (hs : Parted s r d₀ h g) (name : String) {server : Ipv4Addr} {port id : UInt16}
    {found : Bytes × Nat}
    (hfound : HoldAnswer (dnsAnswer? server port id) found h.frame g.frame) :
    Agree s r d₀ Unlike (Host.readAnswer name found h) (Host.readAnswer name found g) := by
  obtain ⟨hresult, log, hread⟩ := readAnswer_eq h name found.1 found.2
  obtain ⟨hresult', log', hread'⟩ := readAnswer_eq g name found.1 found.2
  refine ⟨?_, ?_, fun _ _ => ⟨⟩⟩
  · rw [hresult, hresult']
    cases hoff : Dns.answerOffset found.1 with
    | error e => rfl
    | ok off => rw [Except.map, Except.map, get_of_holdAnswer hfound hoff]
  · rw [hread, hread']
    exact hs.moved hs.device _ _ _ _

lemma resolveName (hs : Parted s r d₀ h g) (server : Ipv4Addr) (name : String) (budget : Nat) :
    Agree s r d₀ Unlike (Host.resolveName server name budget h)
      (Host.resolveName server name budget g) := by
  unfold Host.resolveName
  refine (hs.resolve server budget).bind fun hw h₁ g₁ hs₁ _ => ?_
  simp only [Task.modify_bind, Task.get_bind]
  rw [hs₁.settings_left, hs₁.settings_right, hs₁.dnsTransaction_eq, Frame.stageQuery_fst,
    Frame.stageQuery_fst]
  refine Agree.bind (P := fun n _ _ => Dns.queryLength name 1471 = .ok n) ?_
    fun n h₂ g₂ hs₂ hn => ?_
  · exact ⟨rfl, ⟨rfl, rfl, hs₁.handlers_left, hs₁.handlers_right, rfl, hs₁.deliveries_eq,
      hs₁.device⟩, fun _ hn => hn⟩
  refine (hs₂.finish (Frame.sameButSum_nameQuery s hw server g₁.dnsTransaction hn)
    (Frame.outgoing?_of_queryLength _ h₁.frame hw server _ hn)
    (Frame.outgoing?_of_queryLength _ g₁.frame hw server _ hn)).bind fun _ h₃ g₃ hs₃ _ => ?_
  simp only [Task.modify_bind]
  exact ((hs₃.moved hs₃.device _ _ _ _).waitFor budget _).bind
    fun answer h₄ g₄ hs₄ hanswer => hs₄.readAnswer name hanswer

end Parted

end Agree

/-- Two runs from `h` that have come to the same result by the same turns, and have sent the same
frames one by one but for UDP checksums. -/
structure SameButSums {α : Type} (h : Host (FaultyDevice MemoryDevice))
    (x y : α × Host (FaultyDevice MemoryDevice)) : Prop where
  result_eq : x.1 = y.1
  deliveries_eq : x.2.deliveries = y.2.deliveries
  device : SentApart SameButSum h.device x.2.device y.2.device

variable {h : Host (FaultyDevice MemoryDevice)}

lemma parted_filling
    (hscript : ∀ rule ∈ h.device.inner.script, MemoryDevice.Heedless SameButSum rule) :
    Parted h.settings h.handlers h.device (h.filling false) (h.filling true) :=
  ⟨rfl, rfl, rfl, rfl, rfl, rfl, .refl hscript⟩

lemma Agree.sameButSums {α : Type} {s : Settings} {r : Registry} {P : α → Frame → Frame → Prop}
    {x y : Except NetError α × Host (FaultyDevice MemoryDevice)}
    (hxy : Agree s r h.device P x y) : SameButSums h x y :=
  ⟨hxy.result_eq, hxy.parted.deliveries_eq, hxy.parted.device⟩

end Host

/-- **UDP checksums make no other difference**: whether a host fills them in or leaves them out,
polling, sending and looking up a name come to the same, with the same turns and the same frames but
for the checksums of datagrams. Applications have to go by their requests for this, and the peer has
to take a datagram with a checksum for the same one without, as it does if it follows a script
whatever it is sent. -/
theorem filling_changes_sums (h : Host (FaultyDevice MemoryDevice))
    (hscript : ∀ rule ∈ h.device.inner.script, MemoryDevice.Heedless SameButSum rule) :
    (h.handlers.Stateless → h.SameButSums (h.filling false).poll (h.filling true).poll) ∧
    (∀ data, h.SameButSums (Host.udpSend data (h.filling false))
      (Host.udpSend data (h.filling true))) ∧
    ∀ server name budget, h.SameButSums (Host.resolveName server name budget (h.filling false))
      (Host.resolveName server name budget (h.filling true)) := by
  have hs := Host.parted_filling hscript
  refine ⟨fun hr => ?_, fun data => ?_, fun server name budget => ?_⟩
  · obtain ⟨hcount, hparted⟩ := hs.poll hr
    exact ⟨hcount, hparted.deliveries_eq, hparted.device⟩
  · exact (hs.udpSend data).sameButSums
  · exact (hs.resolveName server name budget).sameButSums

/-- A host that echoes, with a datagram pending, and with one in its buffer. -/
def Host.unsummed : Host (FaultyDevice MemoryDevice) :=
  { Host.new { inner := { queue := [oddDatagram] } } {} with
    frame := Frame.blank.write 0 oddDatagram
    handlers := (Host.echoing []).handlers }

lemma sent_poll_unsummed :
    (Host.unsummed.filling false).poll.2.device.inner.sent.map (fun b => decide (IsUdp b)) =
      [true] := by
  have hne : oddDatagram ≠ [] := by decide
  have hreceive : (Host.unsummed.filling false).receive =
      (.ok oddDatagram, (Host.unsummed.filling false).receive.2) := Prod.ext rfl rfl
  generalize hnext : (Host.unsummed.filling false).receive.2 = next at hreceive
  -- whether or not an echo is sent, nothing else is pending
  have hdrained : (next.dispatch oddDatagram.length).receive =
      (.ok [], (next.dispatch oddDatagram.length).receive.2) := by
    refine Prod.ext ?_ rfl
    rw [Host.result_receive]
    subst hnext
    rcases Host.device_dispatch (Host.unsummed.filling false).receive.2 oddDatagram.length with
      hdevice | ⟨b, hdevice⟩
    · rw [hdevice]
      rfl
    · rw [hdevice]
      rfl
  rw [Host.poll_of_frame _ hne hreceive, Host.poll_of_empty _ hdrained, ← hnext]
  decide +kernel

/-- The datagram is echoed with a checksum and without. A name is looked up with its query given a
checksum, and the same is told. -/
theorem filling_changes_sums_oddDatagram :
    (∃ b b', (Host.unsummed.filling false).poll.2.device.inner.sent = [b] ∧
      (Host.unsummed.filling true).poll.2.device.inner.sent = [b'] ∧ GivenSum b b') ∧
    (Host.resolveName ⟨10, 0, 0, 2⟩ "a.b" 1 (Host.fresh.filling true)).1 =
      .ok ⟨75, ⟨93, 184, 216, 34⟩⟩ := by
  obtain ⟨hpoll, -, -⟩ := filling_changes_sums Host.unsummed (fun _ hrule => nomatch hrule)
  obtain ⟨-, -, hlookup⟩ := filling_changes_sums Host.fresh fun rule hrule => by
    rcases List.mem_cons.1 hrule with rfl | hrule
    · exact fun _ => rfl
    · rw [List.mem_singleton.1 hrule]
      exact fun _ => rfl
  constructor
  · obtain ⟨xs, ys, hoff, hon, hsent⟩ := (hpoll stateless_echoing).device.sent
    have hudp := sent_poll_unsummed
    rw [hoff] at hudp
    obtain ⟨b, rfl, hb⟩ := List.map_eq_singleton_iff.1 (show xs.map _ = [true] from hudp)
    cases hsent with
    | cons hsum hrest =>
      cases hrest
      cases hsum with
      | other hnone => exact absurd (of_decide_eq_true hb) hnone
      | udp hgiven => exact ⟨_, _, hoff, hon, hgiven⟩
  · obtain ⟨h', hfresh⟩ := resolveName_fresh
    rw [← (hlookup ⟨10, 0, 0, 2⟩ "a.b" 1).result_eq]
    exact congrArg Prod.fst hfresh

end PacketHost
