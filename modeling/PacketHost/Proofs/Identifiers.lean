import PacketHost.Proofs.Guarded.Operations
import PacketHost.Proofs.Lookup
import PacketHost.Proofs.Recording

/-!
The numbers that requests carry.

A host counts its echo requests and its queries. Either counter moves as soon as the hardware
address of whoever is to be asked is known, and so once in each such question, whatever becomes of
the question after that (`counter_operate`). What the device is handed in an operation can be told
from the calls that it has noted, and is what the course of the question says (`requests_eq`). So
two requests carry the same number only if the counter has come round between them, and it does come
round (`Told.rounds`).
-/

namespace PacketHost

open Received

/-- The two kinds of requests that are numbered. -/
inductive Numbered
  | echo
  | query

namespace Numbered

variable {δ : Type}

/-- The number that the next request is made from. -/
def counter : Numbered → Host δ → UInt16
  | echo, h => h.pingSequence
  | query, h => h.dnsTransaction

/-- What the counter starts from. -/
def seed : Numbered → Settings → UInt16
  | echo, _ => 0
  | query, s => s.dnsTransactionSeed

/-- The number of the request that moves the counter on from `n`: an echo request is numbered after
the counter has moved, a query before. -/
def number : Numbered → UInt16 → UInt16
  | echo, n => n + 1
  | query, n => n

/-- Who is asked in an operation of this kind, and how many polls there are for it. -/
def asked? : Numbered → Operation δ → Option (Ipv4Addr × Nat)
  | echo, .ping ip budget => some (ip, budget)
  | query, .resolveName server _ budget => some (server, budget)
  | _, _ => none

lemma number_injective (kind : Numbered) : Function.Injective kind.number := by
  intro m n h
  cases kind with
  | echo => exact (UInt16.add_left_inj 1).1 h
  | query => exact h

end Numbered

namespace Host

variable {δ : Type}

/-! ### Runs -/

section Run

variable [FiniteDevice δ]

/-- The operation is a question of this kind, and finds the hardware address of the one asked. -/
def advances (kind : Numbered) (h : Host δ) (op : Operation δ) : Bool :=
  match kind.asked? op with
  | some (ip, budget) => (resolve ip budget h).1.isOk
  | none => false

/-- How many of these operations, one after the other, are questions of this kind that find the
hardware address of the one asked. -/
def advanced (kind : Numbered) : Host δ → List (Operation δ) → Nat
  | _, [] => 0
  | h, op :: ops => (h.advances kind op).toNat + advanced kind (h.operate op).2 ops

end Run

/-! ### What moves a counter -/

section Tasks

variable {α β : Type} {kind : Numbered}

lemma Moved.counter_eq {h h' : Host δ} {d : δ} (hm : Moved h h' d) :
    kind.counter h' = kind.counter h := by
  unfold Moved at hm
  rw [hm]
  cases kind <;> rfl

/-- A task that leaves the counters alone. -/
def Keeps (t : Task δ α) : Prop := ∀ (kind : Numbered) h, kind.counter (t h).2 = kind.counter h

lemma Keeps.bind {t : Task δ α} {f : α → Task δ β} (ht : Keeps t) (hf : ∀ a, Keeps (f a)) :
    Keeps (t >>= f) := by
  intro kind h
  have htask := ht kind h
  rw [Task.bind_apply]
  generalize t h = x at htask ⊢
  rcases x with ⟨e | a, h'⟩
  · exact htask
  · exact (hf a kind h').trans htask

lemma keeps_pure (a : α) : Keeps (pure a : Task δ α) := fun _ _ => rfl

lemma keeps_note (n : Note) : Keeps (modify (·.note n) : Task δ PUnit) := by
  intro kind h
  cases kind <;> rfl

lemma keeps_readAnswer (name : String) (found : Bytes × Nat) :
    Keeps (δ := δ) (readAnswer name found) := by
  intro kind h
  obtain ⟨-, log, hread⟩ := readAnswer_eq h name found.1 found.2
  rw [hread]
  cases kind <;> rfl

variable [Device δ]

lemma keeps_finish (p : Prepared) : Keeps (δ := δ) (finish p) := by
  intro kind h
  rw [finish_eq]
  cases kind <;> rfl

lemma keeps_waitFor (budget : Nat) (accept? : Bytes → Option α) :
    Keeps (δ := δ) (waitFor budget accept?) := by
  intro kind h
  obtain ⟨n, -, hwaited⟩ := h.waitFor_ends budget accept?
  exact hwaited.called.moved.counter_eq

lemma keeps_resolve (ip : Ipv4Addr) (budget : Nat) : Keeps (δ := δ) (resolve ip budget) := by
  intro kind h
  obtain ⟨events, result, -, -, hcalled⟩ := h.resolve_asks ip budget
  exact hcalled.moved.counter_eq

end Tasks

section Questions

variable [Device δ]

/-- A ping moves its counter if it gets to know the hardware address, and leaves the other alone. -/
lemma counter_ping (h : Host δ) (ip : Ipv4Addr) (budget : Nat) :
    (ping ip budget h).2.pingSequence =
        h.pingSequence + .ofNat (resolve ip budget h).1.isOk.toNat ∧
      (ping ip budget h).2.dnsTransaction = h.dnsTransaction := by
  have hecho : (resolve ip budget h).2.pingSequence = h.pingSequence :=
    keeps_resolve ip budget .echo h
  have hquery : (resolve ip budget h).2.dnsTransaction = h.dnsTransaction :=
    keeps_resolve ip budget .query h
  rw [ping, Task.bind_apply]
  generalize resolve ip budget h = asked at hecho hquery ⊢
  rcases asked with ⟨e | hw, h₁⟩
  · exact ⟨hecho.trans (UInt16.add_zero _).symm, hquery⟩
  · simp only [Task.modify_bind, Task.get_bind]
    have hrest (p : Prepared) (accept? : Bytes → Option Unit) :
        Keeps (δ := δ) (finish p >>= fun _ => waitFor budget accept? >>= fun polls =>
          modify (·.note (.echoed ip polls.2)) >>= fun _ => pure polls.2) :=
      (keeps_finish p).bind fun _ => (keeps_waitFor budget accept?).bind fun polls =>
        (keeps_note (.echoed ip polls.2)).bind fun _ => keeps_pure polls.2
    exact ⟨(hrest _ _ .echo _).trans (congrArg (· + 1) hecho), (hrest _ _ .query _).trans hquery⟩

/-- A lookup does the same with its own counter, even if there is no query for the name. -/
lemma counter_resolveName (h : Host δ) (server : Ipv4Addr) (name : String) (budget : Nat) :
    (resolveName server name budget h).2.pingSequence = h.pingSequence ∧
      (resolveName server name budget h).2.dnsTransaction =
        h.dnsTransaction + .ofNat (resolve server budget h).1.isOk.toNat := by
  have hecho : (resolve server budget h).2.pingSequence = h.pingSequence :=
    keeps_resolve server budget .echo h
  have hquery : (resolve server budget h).2.dnsTransaction = h.dnsTransaction :=
    keeps_resolve server budget .query h
  rcases hresolve : resolve server budget h with ⟨e | hw, h₁⟩
  · rw [hresolve] at hecho hquery
    rw [resolveName_of_unresolved hresolve]
    exact ⟨hecho, hquery.trans (UInt16.add_zero _).symm⟩
  rw [hresolve] at hecho hquery
  have hnext : h₁.dnsTransaction + 1 = h.dnsTransaction + 1 := congrArg (· + 1) hquery
  cases hname : Dns.queryLength name 1471 with
  | error e =>
    rw [resolveName_of_unwritten hresolve hname]
    exact ⟨hecho, hnext⟩
  | ok n =>
    rw [resolveName_of_written hresolve hname]
    have hrest (p : Prepared) (note : Note) (accept? : Bytes → Option Bytes) :
        Keeps (δ := δ) ((finish p >>= fun _ => modify (·.note note)) >>= fun _ =>
          waitFor budget accept? >>= readAnswer name) :=
      ((keeps_finish p).bind fun _ => keeps_note note).bind fun _ =>
        (keeps_waitFor budget accept?).bind fun found => keeps_readAnswer name found
    exact ⟨(hrest _ _ _ .echo _).trans hecho, (hrest _ _ _ .query _).trans hnext⟩

end Questions

section Counters

variable [FiniteDevice δ] {kind : Numbered}

lemma counter_poll (h : Host δ) : kind.counter h.poll.2 = kind.counter h := by
  have hpolls := h.polls_poll
  generalize h.poll = polled at hpolls
  obtain ⟨count, last⟩ := polled
  dsimp only at hpolls ⊢
  -- receiving touches the buffer, and reacting what a reaction is carried out on
  have hreceive {h h' : Host δ} {r : Except String Bytes} (hr : h.receive = (r, h')) :
      kind.counter h' = kind.counter h := by
    have hmoved : Moved h h.receive.2 h.receive.2.device := by
      unfold Moved receive
      dsimp only
      split <;> rfl
    rw [hr] at hmoved
    exact hmoved.counter_eq
  induction hpolls with
  | failed hr =>
    rw [← hreceive hr]
    cases kind <;> rfl
  | nothing hr => exact hreceive hr
  | @frame h h' last b count hb hr hp ih =>
    have hdispatch : kind.counter (h'.dispatch b.length) = kind.counter h' := by
      rw [dispatch]
      obtain ⟨log, hcarry⟩ := h'.carryOut_eq
        (h'.frame.react h'.settings h'.handlers h'.deliveries.length b.length)
      rw [hcarry]
      cases kind <;> rfl
    rw [ih, hdispatch, hreceive hr]

/-- **What one operation does to a counter**: it moves on by one, just if the operation is a
question of the counter's kind and finds the hardware address of the one asked. -/
lemma counter_operate (kind : Numbered) (h : Host δ) (op : Operation δ) :
    kind.counter (h.operate op).2 = kind.counter h + .ofNat (h.advances kind op).toNat := by
  have hsame {n : UInt16} (heq : n = kind.counter h) : n = kind.counter h + .ofNat false.toNat :=
    heq.trans (UInt16.add_zero _).symm
  cases op with
  | device change => cases kind <;> exact hsame rfl
  | register handler binding => cases kind <;> exact hsame rfl
  | poll => cases kind <;> exact hsame h.counter_poll
  | udpSend data =>
    have hkeeps := keeps_finish (h.frame.sendUdp h.settings data) kind h
    cases kind <;> exact hsame hkeeps
  | tcpSend data =>
    have hkeeps := keeps_finish (h.frame.sendTcp h.settings h.handlers data) kind h
    cases kind <;> exact hsame hkeeps
  | resolve ip budget =>
    have hkeeps := keeps_resolve ip budget kind h
    cases kind <;> exact hsame hkeeps
  | ping ip budget =>
    obtain ⟨hecho, hquery⟩ := h.counter_ping ip budget
    cases kind with
    | echo => exact hecho
    | query => exact hsame hquery
  | resolveName server name budget =>
    obtain ⟨hecho, hquery⟩ := h.counter_resolveName server name budget
    cases kind with
    | echo => exact hsame hecho
    | query => exact hquery

/-- Only a question can move a counter, and only the one of its kind. -/
lemma counter_of_asked?_none (h : Host δ) {op : Operation δ} (hop : kind.asked? op = none) :
    kind.counter (h.operate op).2 = kind.counter h := by
  rw [counter_operate, advances, hop]
  exact UInt16.add_zero _

/-- The counter tells how many questions there have been, up to multiples of 65536. -/
lemma counter_run (kind : Numbered) (h : Host δ) (ops : List (Operation δ)) :
    kind.counter (h.run ops).2 = kind.counter h + .ofNat (h.advanced kind ops) := by
  induction ops generalizing h with
  | nil => exact (UInt16.add_zero _).symm
  | cons op ops ih =>
    have hrest := ih (h.operate op).2
    rw [counter_operate] at hrest
    rw [advanced, UInt16.ofNat_add, ← UInt16.add_assoc]
    exact hrest

end Counters

end Host

/-! ### What the requests carry -/

namespace Device

/-- The packets among the frames that a device is handed in these calls. -/
def packets (events : List Event) : List Bytes :=
  (events.filterMap Event.handed?).filter fun b =>
    decide ((ethernet b).etherType = EtherType.ipv4)

lemma packets_append (xs ys : List Event) : packets (xs ++ ys) = packets xs ++ packets ys := by
  rw [packets, List.filterMap_append, List.filter_append]
  rfl

end Device

namespace Host

variable {δ : Type} [FiniteDevice δ]

/-- The calls that the device has in an operation. -/
def calls (h : Host (RecordingDevice δ)) (op : Operation (RecordingDevice δ)) :
    List Device.Event :=
  (h.operate op).2.device.calls.drop h.device.calls.length

/-- What the device is handed in a question of this kind, but for the question for the hardware
address, which is no packet. -/
def requests (kind : Numbered) (h : Host (RecordingDevice δ))
    (op : Operation (RecordingDevice δ)) : List Bytes :=
  match kind.asked? op with
  | some _ => Device.packets (h.calls op)
  | none => []

end Host

/-- The frame is the request of this operation, and carries this number both for the packet and for
the request in it. -/
inductive Carries {δ : Type} (s : Settings) (n : UInt16) : Operation δ → Bytes → Prop
  | echo {ip : Ipv4Addr} {budget : Nat} {hw : MacAddr} {b : Bytes}
      (h : RequestsEcho s hw ip n b) (hid : (Received.ip b).id = n) :
      Carries s n (.ping ip budget) b
  | query {server : Ipv4Addr} {name : String} {budget : Nat} {hw : MacAddr} {b : Bytes}
      (h : RequestsName s hw server n name b) (hid : (Received.ip b).id = n) :
      Carries s n (.resolveName server name budget) b

lemma Carries.id_eq {δ : Type} {s : Settings} {n : UInt16} {op : Operation δ} {b : Bytes}
    (h : Carries s n op b) : (Received.ip b).id = n := by
  cases h with
  | echo _ hid => exact hid
  | query _ hid => exact hid

section Course

open Device

variable {s : Settings} {ip server : Ipv4Addr} {name : String} {budget : Nat} {n n' : UInt16}
  {events : List Event} {α : Type} {accept? : Bytes → Option α} {result : Except NetError (α × Nat)}

lemma Asks.handed_eq {request : Bytes} (h : Asks request accept? budget events result) :
    events.filterMap Event.handed? = [request] := by
  cases h with
  | refused => rfl
  | @waited outcomes _ h => simp [Event.handed?]

/-- The question for a hardware address is no packet. -/
lemma Asks.packets_arpRequest (h : Asks (arpRequest s ip) accept? budget events result) :
    packets events = [] := by
  have htype : ¬ (ethernet (arpRequest s ip)).etherType = EtherType.ipv4 := by
    rw [arpRequest, ethernet_arpFrame]
    exact (by decide : EtherType.arp ≠ EtherType.ipv4)
  rw [packets, h.handed_eq, List.filter_cons_of_neg (by simpa using htype), List.filter_nil]

lemma Asks.packets_packet {hw : MacAddr} {protocol : UInt8} {id : UInt16} {payload : Bytes}
    (h : Asks (packet s hw protocol ip id payload) accept? budget events result) :
    packets events = [packet s hw protocol ip id payload] := by
  rw [packets, h.handed_eq, List.filter_cons_of_pos (by simp), List.filter_nil]

lemma Pings.packets_eq {result : Except NetError Nat} (h : Pings s ip budget n events result n') :
    packets events = [] ∧ n' = n ∨
      ∃ hw, packets events = [echoRequest s hw ip (n + 1)] ∧ n' = n + 1 := by
  cases h with
  | unresolved h => exact .inl ⟨h.packets_arpRequest, rfl⟩
  | @resolved first second hw polls result h h' =>
    refine .inr ⟨hw, ?_, rfl⟩
    rw [packets_append, h.packets_arpRequest, List.nil_append]
    exact h'.packets_packet

lemma LooksUp.packets_eq {result : Except NetError NameAnswer}
    (h : LooksUp s server name budget n events result n') :
    packets events = [] ∨ ∃ hw k, packets events = [nameQuery s hw server n name] ∧
      Dns.queryLength name 1471 = .ok k ∧ n' = n + 1 := by
  cases h with
  | unresolved h => exact .inl h.packets_arpRequest
  | unwritten h => exact .inl h.packets_arpRequest
  | @unanswered first second hw polls k e h hname h' =>
    refine .inr ⟨hw, k, ?_, hname, rfl⟩
    rw [packets_append, h.packets_arpRequest, List.nil_append]
    exact h'.packets_packet
  | @answered first second hw polls polls' k b h hname h' =>
    refine .inr ⟨hw, k, ?_, hname, rfl⟩
    rw [packets_append, h.packets_arpRequest, List.nil_append]
    exact h'.packets_packet

end Course

namespace Host

variable {δ : Type} [FiniteDevice δ] {kind : Numbered} {h : Host (RecordingDevice δ)}
  {op : Operation (RecordingDevice δ)}

/-- The calls that have been made in an operation are those that the device has noted since. -/
lemma Called.calls_eq {n m : UInt16} {events : List Device.Event}
    (hc : Called { h with pingSequence := n, dnsTransaction := m } (h.operate op).2 events) :
    h.calls op = events := by
  rw [calls, RecordingDevice.calls_of_trace hc.trace, List.drop_left]

lemma advances_iff :
    h.advances kind op = true ↔ kind.counter (h.operate op).2 = kind.counter h + 1 := by
  rw [counter_operate, UInt16.add_right_inj]
  cases h.advances kind op <;> decide

/-- An operation makes no numbered request, or it makes one and moves the counter. -/
lemma requests_eq (kind : Numbered) (h : Host (RecordingDevice δ))
    (op : Operation (RecordingDevice δ)) :
    h.requests kind op = [] ∨ ∃ b, h.requests kind op = [b] ∧ h.advances kind op = true ∧
      Carries h.settings (kind.number (kind.counter h)) op b := by
  cases hop : kind.asked? op with
  | none =>
    left
    rw [requests, hop]
  | some question =>
    have hrequests : h.requests kind op = Device.packets (h.calls op) := by
      rw [requests, hop]
    rw [hrequests]
    cases op with
    | ping ip budget =>
      cases kind with
      | query => cases hop
      | echo =>
        obtain ⟨events, n, hcalled, hpings⟩ := h.ping_pings ip budget
        have hsequence : (ping ip budget h).2.pingSequence = n := by rw [hcalled.moved]
        have hcalls : h.calls (.ping ip budget) = events := Called.calls_eq hcalled
        rw [hcalls]
        rcases hpings.packets_eq with ⟨hnone, -⟩ | ⟨hw, hone, hnext⟩
        · exact .inl hnone
        · refine .inr ⟨_, hone, advances_iff.2 (hsequence.trans hnext), ?_⟩
          refine .echo (requestsEcho_echoRequest _ hw ip _) ?_
          rw [echoRequest, ip_packet]
          rfl
    | resolveName server name budget =>
      cases kind with
      | echo => cases hop
      | query =>
        obtain ⟨events, hlookup⟩ := h.resolveName_lookup server name budget
        have hcalls : h.calls (.resolveName server name budget) = events :=
          Called.calls_eq hlookup.called
        rw [hcalls]
        rcases hlookup.course.packets_eq with hnone | ⟨hw, k, hone, hname, hnext⟩
        · exact .inl hnone
        · refine .inr ⟨_, hone, advances_iff.2 hnext, ?_⟩
          refine .query (requestsName_nameQuery hname) ?_
          rw [nameQuery, ip_packet]
          rfl
    | _ => cases kind <;> cases hop

/-- A ping that gets to know the hardware address makes its request. -/
lemma exists_mem_requests_ping {ip : Ipv4Addr} {budget : Nat}
    (hadvances : h.advances .echo (.ping ip budget) = true) :
    ∃ b, b ∈ h.requests .echo (.ping ip budget) := by
  obtain ⟨events, n, hcalled, hpings⟩ := h.ping_pings ip budget
  have hsequence : (ping ip budget h).2.pingSequence = n := by rw [hcalled.moved]
  have hcalls : h.calls (.ping ip budget) = events := Called.calls_eq hcalled
  have hrequests : h.requests .echo (.ping ip budget) = Device.packets events :=
    congrArg Device.packets hcalls
  rw [hrequests]
  rcases hpings.packets_eq with ⟨-, hsame⟩ | ⟨hw, hone, -⟩
  · have hnext := (advances_iff.1 hadvances).symm.trans (hsequence.trans hsame)
    exact absurd ((UInt16.add_eq_left).1 hnext) (by decide)
  · exact ⟨_, hone ▸ List.mem_singleton_self _⟩

lemma requests_of_mem {b : Bytes} (hb : b ∈ h.requests kind op) :
    h.advances kind op = true ∧ Carries h.settings (kind.number (kind.counter h)) op b := by
  rcases h.requests_eq kind op with hnone | ⟨b', hone, hadvances, hcarries⟩
  · rw [hnone] at hb
    cases hb
  · rw [hone, List.mem_singleton] at hb
    subst hb
    exact ⟨hadvances, hcarries⟩

end Host

/-- **Requests are numbered one after the other.** From a new host on, each counter tells how many
questions of its kind have found the hardware address of the one asked, whatever has become of them
after that, and no other operation moves it. An operation makes one such request at most, which
carries the number that the counter stood at, or the next one, in both places; so two requests carry
the same number only if the counter has come round in between. -/
theorem requests_numbered {δ : Type} [FiniteDevice δ] (kind : Numbered) :
    (∀ (d : δ) (s : Settings) (ops : List (Operation δ)),
      kind.counter ((Host.new d s).run ops).2 =
        kind.seed s + .ofNat ((Host.new d s).advanced kind ops)) ∧
    (∀ (h : Host δ) (op : Operation δ), kind.asked? op = none →
      kind.counter (h.operate op).2 = kind.counter h) ∧
    (∀ (h : Host (RecordingDevice δ)) (op : Operation (RecordingDevice δ)),
      (h.requests kind op).length ≤ 1 ∧
        ∀ b ∈ h.requests kind op, Carries h.settings (kind.number (kind.counter h)) op b) ∧
    ∀ (h : Host (RecordingDevice δ)) (op op' : Operation (RecordingDevice δ))
      (between : List (Operation (RecordingDevice δ))) (b b' : Bytes),
      b ∈ h.requests kind op → b' ∈ (h.run (op :: between)).2.requests kind op' →
        (ip b).id = (ip b').id →
          0 < h.advanced kind (op :: between) ∧ 65536 ∣ h.advanced kind (op :: between) := by
  refine ⟨fun d s ops => ?_, fun h op hop => h.counter_of_asked?_none hop,
    fun h op => ⟨?_, fun b hb => (Host.requests_of_mem hb).2⟩, ?_⟩
  · rw [Host.counter_run]
    cases kind <;> rfl
  · rcases h.requests_eq kind op with hnone | ⟨b, hone, -⟩
    · rw [hnone]
      exact Nat.zero_le 1
    · rw [hone]
      exact Nat.le_refl 1
  · intro h op op' between b b' hb hb' heq
    obtain ⟨hadvances, hcarries⟩ := Host.requests_of_mem hb
    obtain ⟨-, hcarries'⟩ := Host.requests_of_mem hb'
    rw [hcarries.id_eq, hcarries'.id_eq] at heq
    have hcounter := kind.number_injective heq
    rw [Host.counter_run, UInt16.left_eq_add] at hcounter
    refine ⟨?_, ?_⟩
    · rw [Host.advanced, hadvances]
      exact Nat.add_pos_left Nat.one_pos _
    · have hzero := congrArg UInt16.toNat hcounter
      rw [UInt16.toNat_ofNat'] at hzero
      exact Nat.dvd_of_mod_eq_zero hzero

/-! ### Coming round -/

/-- A device on which the one who is asked tells its hardware address, and nothing else. -/
def RecordingDevice.telling : RecordingDevice MemoryDevice :=
  { inner := ({} : MemoryDevice).expect [[toldByServer], []] }

namespace Operation

/-- A ping that is not answered. -/
def unanswered {δ : Type} : Operation δ := .ping ⟨10, 0, 0, 2⟩ 1

/-- So many pings, each of them on a device as it was at first. -/
def rounds : Nat → List (Operation (RecordingDevice MemoryDevice))
  | 0 => []
  | n + 1 => unanswered :: .device (fun _ => .telling) :: rounds n

end Operation

namespace Host

/-- The host is about to be told. -/
structure Told (h : Host (RecordingDevice MemoryDevice)) : Prop where
  settings_eq : h.settings = {}
  device_eq : h.device = .telling

namespace Told

variable {h : Host (RecordingDevice MemoryDevice)}

lemma advances (ht : h.Told) : h.advances .echo .unanswered = true := by
  have hlearns : ∃ d, h.Learns ⟨10, 0, 0, 2⟩ 1 ⟨2, 0, 0, 0, 0, 2⟩ d := by
    obtain ⟨device, settings⟩ := h
    obtain ⟨rfl, rfl⟩ := ht
    exact ⟨_, .intro rfl (.here rfl) tellsHardware_toldByServer (Nat.le_refl 1)⟩
  obtain ⟨d, hlearns⟩ := hlearns
  obtain ⟨h', -, hresolve⟩ := hlearns.resolve
  show (resolve ⟨10, 0, 0, 2⟩ 1 h).1.isOk = true
  rw [hresolve]
  rfl

lemma round (ht : h.Told) :
    ((h.operate .unanswered).2.operate (.device fun _ => .telling)).2.Told := by
  obtain ⟨events, n, hcalled, -⟩ := h.ping_pings ⟨10, 0, 0, 2⟩ 1
  have hsettings : (ping ⟨10, 0, 0, 2⟩ 1 h).2.settings = h.settings := by rw [hcalled.moved]
  exact ⟨hsettings.trans ht.settings_eq, rfl⟩

lemma rounds (ht : h.Told) (n : Nat) :
    (h.run (Operation.rounds n)).2.Told ∧ h.advanced .echo (Operation.rounds n) = n := by
  induction n generalizing h with
  | zero => exact ⟨ht, rfl⟩
  | succ n ih =>
    obtain ⟨hlast, hcount⟩ := ih ht.round
    refine ⟨hlast, ?_⟩
    rw [Operation.rounds, advanced, advanced, hcount, ht.advances]
    show 1 + (0 + n) = n + 1
    omega

end Told

end Host

/-- After 65536 pings the next one carries the number of the first. -/
theorem requests_numbered_rounds :
    ((Host.new RecordingDevice.telling {}).run (Operation.rounds 3)).2.pingSequence = 3 ∧
      ((Host.new RecordingDevice.telling {}).operate .poll).2.pingSequence = 0 ∧
      ∃ b b', b ∈ (Host.new RecordingDevice.telling {}).requests .echo .unanswered ∧
        b' ∈ ((Host.new RecordingDevice.telling {}).run (Operation.rounds 65536)).2.requests .echo
          .unanswered ∧
        (ip b).id = (ip b').id ∧
        0 < (Host.new RecordingDevice.telling {}).advanced .echo (Operation.rounds 65536) ∧
        65536 ∣ (Host.new RecordingDevice.telling {}).advanced .echo (Operation.rounds 65536) := by
  have ht : (Host.new RecordingDevice.telling {}).Told := ⟨rfl, rfl⟩
  obtain ⟨hrun, hstep, -, -⟩ := requests_numbered (δ := RecordingDevice MemoryDevice) .echo
  obtain ⟨-, -, -, hround⟩ := requests_numbered (δ := MemoryDevice) .echo
  refine ⟨?_, hstep _ .poll rfl, ?_⟩
  · exact (hrun .telling {} (Operation.rounds 3)).trans (by rw [(ht.rounds 3).2]; rfl)
  · obtain ⟨hlast, hcount⟩ := ht.rounds 65536
    obtain ⟨b, hb⟩ := Host.exists_mem_requests_ping ht.advances
    obtain ⟨b', hb'⟩ := Host.exists_mem_requests_ping hlast.advances
    have hsame : Numbered.echo.counter
        ((Host.new RecordingDevice.telling {}).run (Operation.rounds 65536)).2 = 0 := by
      rw [hrun, hcount]
      rfl
    have heq : (ip b).id = (ip b').id := by
      rw [(Host.requests_of_mem hb).2.id_eq, (Host.requests_of_mem hb').2.id_eq, hsame]
      rfl
    have hrounds : Operation.rounds 65536 =
        .unanswered :: .device (fun _ => .telling) :: Operation.rounds 65535 := rfl
    refine ⟨b, b', hb, hb', heq, ?_⟩
    rw [hrounds] at hb' ⊢
    exact hround _ _ _ _ b b' hb hb' heq

end PacketHost
