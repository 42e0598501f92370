import PacketHost.Proofs.Asking
import PacketHost.Proofs.Link

/-!
A ping, call by call.

A ping is one question or two: who has the address, and, if that is answered, an echo request to
whoever has answered. Each has the whole budget for itself. What is received in the one is gone for
the other, and a reply to an earlier ping is told apart by its sequence number.
-/

namespace PacketHost

open Bytes Received

/-! ### What is sent -/

namespace Received

/-- The frame asks everyone who has `target`. -/
structure RequestsHardware (s : Settings) (target : Ipv4Addr) (b : Bytes) : Prop where
  length_eq : b.length = 42
  ethernet_eq : ethernet b = ⟨.broadcast, s.mac, EtherType.arp⟩
  hwType : (arp b).hwType = 1
  protoType : (arp b).protoType = EtherType.ipv4
  opcode : (arp b).opcode = ArpPacket.opRequest
  senderHw : (arp b).senderHw = s.mac
  senderIp : (arp b).senderIp = s.ip
  targetIp : (arp b).targetIp = target

/-- The frame asks `peer` for an echo, both of its checksums being right. -/
structure RequestsEcho (s : Settings) (hw : MacAddr) (peer : Ipv4Addr) (sequence : UInt16)
    (b : Bytes) : Prop extends Plain b where
  ethernet_eq : ethernet b = ⟨hw, s.mac, EtherType.ipv4⟩
  protocol : (ip b).protocol = IpProtocol.icmp
  src : (ip b).src = s.ip
  dst : (ip b).dst = peer
  ipChecksum : checksum (slice b ipOffset transportOffset) = 0
  header : 8 ≤ (message b).length
  type : (Wire.decode (message b) 0 : IcmpHeader).type = IcmpHeader.echoRequestType
  identifier_eq : (Wire.decode (message b) 0 : IcmpHeader).identifier = s.pingIdentifier
  sequence_eq : (Wire.decode (message b) 0 : IcmpHeader).sequence = sequence
  icmpChecksum : checksum (message b) = 0

end Received

lemma requestsHardware_arpRequest (s : Settings) (ip : Ipv4Addr) :
    RequestsHardware s ip (arpRequest s ip) where
  length_eq := by rw [arpRequest, length_arpFrame]
  ethernet_eq := by rw [arpRequest, ethernet_arpFrame]
  hwType := by rw [arpRequest, arp_arpFrame]; rfl
  protoType := by rw [arpRequest, arp_arpFrame]; rfl
  opcode := by rw [arpRequest, arp_arpFrame]; rfl
  senderHw := by rw [arpRequest, arp_arpFrame]; rfl
  senderIp := by rw [arpRequest, arp_arpFrame]; rfl
  targetIp := by rw [arpRequest, arp_arpFrame]; rfl

/-- The header of a packet as it stands in the frame sums to zero. -/
lemma checksum_packet {s : Settings} {hw : MacAddr} {protocol : UInt8} {peer : Ipv4Addr}
    {id : UInt16} {payload : Bytes} :
    checksum (slice (packet s hw protocol peer id payload) ipOffset transportOffset) = 0 := by
  have hheader : slice (packet s hw protocol peer id payload) ipOffset transportOffset =
      Wire.encode (Ipv4Header.outgoing protocol id s.ip peer payload.length).withChecksum :=
    slice_append_append (n := ipOffset) rfl
  rw [hheader, checksum_withChecksum]

lemma checksum_echoMessage (s : Settings) (sequence : UInt16) :
    checksum (echoMessage s sequence) = 0 := by
  have hrequest : word16At
      (Wire.encode (IcmpHeader.echoRequest s.pingIdentifier sequence) ++ pingPayload) 2 = 0 :=
    congrArg IcmpHeader.checksum (decode_append (x := []) (z := pingPayload)
      (IcmpHeader.echoRequest s.pingIdentifier sequence) rfl)
  refine checksum_fillChecksum ?_ hrequest
  rw [List.length_append, LawfulWire.length_encode]
  exact Nat.le_add_right_of_le (show 4 ≤ 8 by decide)

lemma requestsEcho_echoRequest (s : Settings) (hw : MacAddr) (ip : Ipv4Addr) (sequence : UInt16) :
    RequestsEcho s hw ip sequence (echoRequest s hw ip sequence) := by
  have hlen : (echoMessage s sequence).length ≤ 1480 := by
    rw [length_echoMessage]
    decide
  have hmessage : message (echoRequest s hw ip sequence) = echoMessage s sequence :=
    message_packet hlen
  obtain ⟨sum, hdecode⟩ := decode_echoMessage s sequence
  exact
    { toPlain := plain_packet hlen
      ethernet_eq := by rw [echoRequest, ethernet_packet]
      protocol := by rw [echoRequest, ip_packet]; rfl
      src := by rw [echoRequest, ip_packet]; rfl
      dst := by rw [echoRequest, ip_packet]; rfl
      ipChecksum := checksum_packet
      header := by rw [hmessage, length_echoMessage]; decide
      type := by rw [hmessage, hdecode]; rfl
      identifier_eq := by rw [hmessage, hdecode]; rfl
      sequence_eq := by rw [hmessage, hdecode]; rfl
      icmpChecksum := by rw [hmessage, checksum_echoMessage] }

/-! ### The course of a ping -/

/-- The calls of a ping, what comes of it, and the sequence number it leaves. -/
inductive Pings (s : Settings) (ip : Ipv4Addr) (budget : Nat) (sequence : UInt16) :
    List Device.Event → Except NetError Nat → UInt16 → Prop
  | unresolved {events : List Device.Event} {e : NetError}
      (h : Asks (arpRequest s ip) (arpAnswer? ip) budget events (.error e)) :
      Pings s ip budget sequence events (.error e) sequence
  | resolved {first second : List Device.Event} {hw : MacAddr} {polls : Nat}
      {result : Except NetError (Unit × Nat)}
      (h : Asks (arpRequest s ip) (arpAnswer? ip) budget first (.ok (hw, polls)))
      (h' : Asks (echoRequest s hw ip (sequence + 1))
        (echoAnswer? s.ip ip s.pingIdentifier (sequence + 1)) budget second result) :
      Pings s ip budget sequence (first ++ second) (result.map Prod.snd) (sequence + 1)

/-- The calls of a ping that has been answered, and on which poll after the echo request. -/
inductive Echoed (s : Settings) (ip : Ipv4Addr) (budget : Nat) (sequence : UInt16) :
    List Device.Event → Nat → Prop
  | intro {ask told echo reply : Bytes} {passed quiet : List Bytes}
      (hask : RequestsHardware s ip ask)
      (hpassed : ∀ b ∈ passed, ¬ TellsHardware ip b) (htold : TellsHardware ip told)
      (hecho : RequestsEcho s (arp told).senderHw ip sequence echo)
      (hquiet : ∀ b ∈ quiet, ¬ RepliesToEcho s.ip ip s.pingIdentifier sequence b)
      (hreply : RepliesToEcho s.ip ip s.pingIdentifier sequence reply)
      (hbudget : quiet.length + 1 ≤ budget) :
      Echoed s ip budget sequence
        (.send ask (.ok ()) :: (passed ++ [told]).map (fun b => .receive (.ok b)) ++
          .send echo (.ok ()) :: (quiet ++ [reply]).map (fun b => .receive (.ok b)))
        (quiet.length + 1)

namespace Echoed

variable {s : Settings} {ip : Ipv4Addr} {budget n : Nat} {sequence : UInt16}
  {events : List Device.Event}

lemma pos (h : Echoed s ip budget sequence events n) : 1 ≤ n := by
  cases h with
  | intro => exact Nat.le_add_left 1 _

lemma le_budget (h : Echoed s ip budget sequence events n) : n ≤ budget := by
  cases h with
  | intro _ _ _ _ _ _ hbudget => exact hbudget

end Echoed

namespace Pings

open Device

variable {s : Settings} {ip : Ipv4Addr} {budget n : Nat} {sequence sequence' : UInt16}
  {events : List Event} {result : Except NetError Nat}

lemma receives_le (h : Pings s ip budget sequence events result sequence') :
    events.countP Event.isReceive ≤ 2 * budget := by
  cases h with
  | unresolved h =>
    have hle := h.receives_le
    omega
  | resolved h h' =>
    have hle := h.receives_le
    have hle' := h'.receives_le
    rw [List.countP_append]
    omega

lemma sends_le (h : Pings s ip budget sequence events result sequence') :
    events.countP Event.isSend ≤ 2 := by
  cases h with
  | unresolved h =>
    rw [h.sends_eq]
    decide
  | resolved h h' => rw [List.countP_append, h.sends_eq, h'.sends_eq]

lemma echoed (h : Pings s ip budget sequence events (.ok n) sequence') :
    Echoed s ip budget (sequence + 1) events n := by
  generalize hr : Except.ok n = result at h
  cases h with
  | unresolved => cases hr
  | @resolved first second hw polls result h h' =>
    rcases result with e | ⟨⟨⟩, polls'⟩
    · cases hr
    cases hr
    obtain ⟨passed, told, rfl, hpassed, htold, -, -⟩ := h.of_ok
    obtain ⟨quiet, reply, rfl, hquiet, hreply, rfl, hbudget⟩ := h'.of_ok
    obtain ⟨htells, rfl⟩ := arpAnswer?_eq_some.1 htold
    refine .intro (requestsHardware_arpRequest s ip) ?_ htells
      (requestsEcho_echoRequest s _ ip _) ?_ (echoAnswer?_eq_some.1 hreply) hbudget
    · intro b hb
      rcases hpassed b hb with rfl | hnone
      · exact fun htells => htells.ne_nil rfl
      · exact arpAnswer?_eq_none.1 hnone
    · intro b hb
      rcases hquiet b hb with rfl | hnone
      · exact fun hreplies => hreplies.ne_nil rfl
      · exact echoAnswer?_eq_none.1 hnone

/-- A ping fails with its last question. -/
lemma last_question {e : NetError} (h : Pings s ip budget sequence events (.error e) sequence') :
    ∃ (α : Type) (accept? : Bytes → Option α) (request : Bytes) (before last : List Event),
      events = before ++ last ∧ Asks request accept? budget last (.error e) := by
  generalize hr : Except.error e = result at h
  cases h with
  | unresolved h =>
    cases hr
    exact ⟨_, _, _, [], events, rfl, h⟩
  | @resolved first second hw polls result h h' =>
    rcases result with e' | ⟨⟨⟩, polls'⟩
    · cases hr
      exact ⟨_, _, _, first, second, rfl, h'⟩
    · cases hr

/-- Nothing at all has arrived after the last request. -/
lemma of_noReply (h : Pings s ip budget sequence events (.error (NetError.noReply n)) sequence') :
    n = budget ∧ ∃ before request,
      events = before ++ .send request (.ok ()) :: List.replicate budget (.receive (.ok [])) := by
  obtain ⟨_, _, request, before, last, rfl, hasks⟩ := h.last_question
  obtain ⟨hn, rfl⟩ := hasks.of_noReply
  exact ⟨hn, before, request, rfl⟩

lemma of_timeout (h : Pings s ip budget sequence events (.error (NetError.timeout n)) sequence') :
    n = budget ∧ ∃ before request, ∃ outcomes : List (Except String Bytes),
      events = before ++ .send request (.ok ()) :: outcomes.map .receive ∧
        outcomes.length = budget ∧ Arrived outcomes := by
  obtain ⟨_, _, request, before, last, rfl, hasks⟩ := h.last_question
  obtain ⟨hn, outcomes, rfl, hlen, harrived⟩ := hasks.of_timeout
  exact ⟨hn, before, request, outcomes, rfl, hlen, harrived⟩

end Pings

namespace Host

variable {δ : Type} [Device δ]

lemma ping_pings (h : Host δ) (ip : Ipv4Addr) (budget : Nat) : ∃ events sequence,
    Called { h with pingSequence := sequence } (ping ip budget h).2 events ∧
      Pings h.settings ip budget h.pingSequence events (ping ip budget h).1 sequence := by
  obtain ⟨first, result, hasks, hresult, hfirst⟩ := h.resolve_asks ip budget
  unfold ping
  simp only [Task.bind_apply h]
  generalize resolve ip budget h = run at hresult hfirst ⊢
  obtain ⟨r, h₁⟩ := run
  dsimp only at hresult hfirst ⊢
  subst hresult
  rcases result with e | ⟨hw, polls⟩
  · exact ⟨first, h.pingSequence, hfirst, .unresolved hasks⟩
  have hsettings : h₁.settings = h.settings := by rw [hfirst.moved]
  have hsequence : h₁.pingSequence = h.pingSequence := by rw [hfirst.moved]
  have htransaction : h₁.dnsTransaction = h.dnsTransaction := by rw [hfirst.moved]
  -- the request is staged in what the first question has left in the buffer
  have hstaged := Frame.outgoing?_stageEchoRequest h₁.settings h₁.frame hw ip
    (h₁.pingSequence + 1)
  have hsent := finish_of_outgoing (h := { h₁ with pingSequence := h₁.pingSequence + 1 }) hstaged
  obtain ⟨second, result, h₂, hasks', hsecond, -, hrun⟩ := asks_of_send hsent budget
    (echoAnswer? h₁.settings.ip ip h₁.settings.pingIdentifier (h₁.pingSequence + 1))
  dsimp only [Except.map]
  simp only [Task.bind_apply h₁, Task.modify_apply,
    Task.bind_apply { h₁ with pingSequence := h₁.pingSequence + 1 } get, Task.get_apply]
  rw [hrun]
  rw [hsettings, hsequence] at hasks'
  rw [hsequence, htransaction] at hsecond
  have hpings := Pings.resolved hasks hasks'
  rcases result with e | ⟨⟨⟩, polls'⟩
  · exact ⟨first ++ second, _, hfirst.append hsecond, hpings⟩
  · exact ⟨first ++ second, _, hfirst.append (hsecond.note (.echoed ip polls')), hpings⟩

/-- What is known of a ping from the calls it has made, whatever comes of it. -/
structure Pinged (h h' : Host δ) (ip : Ipv4Addr) (budget : Nat) (events : List Device.Event)
    (result : Except NetError Nat) : Prop where
  called : Called { h with pingSequence := h'.pingSequence } h' events
  course : Pings h.settings ip budget h.pingSequence events result h'.pingSequence
  deliveries_eq : h'.deliveries = h.deliveries
  receives_le : events.countP Device.Event.isReceive ≤ 2 * budget
  sends_le : events.countP Device.Event.isSend ≤ 2
  echoed {n : Nat} : result = .ok n →
    1 ≤ n ∧ n ≤ budget ∧ Echoed h.settings ip budget (h.pingSequence + 1) events n
  /-- Nothing at all has arrived after the last request. -/
  silent {n : Nat} : result = .error (.noReply n) → n = budget ∧ ∃ before request,
    events = before ++ .send request (.ok ()) :: List.replicate budget (.receive (.ok []))
  /-- Something has arrived after the last request, but not what was waited for. -/
  unmatched {n : Nat} : result = .error (.timeout n) → n = budget ∧
    ∃ before request, ∃ outcomes : List (Except String Bytes),
      events = before ++ .send request (.ok ()) :: outcomes.map .receive ∧
        outcomes.length = budget ∧ Arrived outcomes

end Host

/-- **Ping is sound and accounts for its budget**: a ping that returns has been answered, by a reply
to the one echo request it has sent to the one that the address was resolved to, and by none before
it. Whatever the device does, a ping makes two waits at most, each within the budget, and its
sequence number advances just if the first of them has been successful. -/
theorem ping_sound {δ : Type} [Device δ] (h : Host δ) (ip : Ipv4Addr) (budget : Nat) : ∃ events,
    Host.Pinged h (Host.ping ip budget h).2 ip budget events (Host.ping ip budget h).1 := by
  obtain ⟨events, sequence, hcalled, hpings⟩ := h.ping_pings ip budget
  have hsequence : (Host.ping ip budget h).2.pingSequence = sequence := by rw [hcalled.moved]
  subst hsequence
  refine ⟨events, ?_⟩
  exact
    { called := hcalled
      course := hpings
      deliveries_eq := by rw [hcalled.moved]
      receives_le := hpings.receives_le
      sends_le := hpings.sends_le
      echoed := by
        intro n hn
        rw [hn] at hpings
        have hechoed := hpings.echoed
        exact ⟨hechoed.pos, hechoed.le_budget, hechoed⟩
      silent := by
        intro n hn
        rw [hn] at hpings
        exact hpings.of_noReply
      unmatched := by
        intro n hn
        rw [hn] at hpings
        exact hpings.of_timeout }

end PacketHost
