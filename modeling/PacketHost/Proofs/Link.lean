import PacketHost.Proofs.Inquiring

/-!
Two hosts on one wire.

The peer is a host like any other: whatever is sent over the link, it receives and polls for, and
whatever it sends comes back. The two are asked to agree on what each of them was written to do
alone. A request is built by turning around a packet that the peer never sent, the peer turns it
around once more, and what arrives has to be just what the wait is for.
-/

namespace PacketHost

open Bytes Received

/-! ### Echo messages -/

namespace Icmp

/-- The checksum is all that is filled in. -/
lemma decode_fillChecksum {message : Bytes} (h : 8 ≤ message.length) :
    (Wire.decode (fillChecksum message) 0 : IcmpHeader) =
      { (Wire.decode message 0 : IcmpHeader) with checksum := checksum message } := by
  have hsum : word16At (fillChecksum message) 2 = checksum message :=
    word16At_overwrite (by omega) _
  have hkeep (i : Nat) (hi : i < 2 ∨ 4 ≤ i) :
      byteAt (fillChecksum message) i = byteAt message i := by
    rw [fillChecksum, byteAt_overwrite, if_neg]
    simp only [ofWord16, List.length_cons, List.length_nil]
    omega
  simp only [Wire.decode, Nat.zero_add, hsum, hkeep 0 (by omega), hkeep 1 (by omega)]
  simp only [word16At, hkeep 4 (by omega), hkeep 5 (by omega), hkeep 6 (by omega),
    hkeep 7 (by omega)]

/-- An echo reply keeps the code, the identifier and the sequence number. -/
lemma decode_echoed {message : Bytes} (h : 8 ≤ message.length) :
    ∃ sum, (Wire.decode (echoed message) 0 : IcmpHeader) =
      { (Wire.decode message 0 : IcmpHeader) with
        type := IcmpHeader.echoReplyType, checksum := sum } := by
  unfold echoed
  dsimp only
  rw [decode_fillChecksum (by rwa [length_overwrite]), Wire.decode_overwrite _ h]
  exact ⟨_, rfl⟩

end Icmp

lemma decode_echoMessage (s : Settings) (sequence : UInt16) :
    ∃ sum, (Wire.decode (echoMessage s sequence) 0 : IcmpHeader) =
      { IcmpHeader.echoRequest s.pingIdentifier sequence with checksum := sum } := by
  have hrequest : (Wire.decode
      (Wire.encode (IcmpHeader.echoRequest s.pingIdentifier sequence) ++ pingPayload) 0 :
        IcmpHeader) = IcmpHeader.echoRequest s.pingIdentifier sequence :=
    decode_append (x := []) _ rfl
  rw [echoMessage, Icmp.decode_fillChecksum, hrequest]
  · exact ⟨_, rfl⟩
  · rw [List.length_append, LawfulWire.length_encode]
    exact Nat.le_add_right 8 _

/-! ### Requests and replies, frame by frame -/

lemma asksArp_arpRequest (s peer : Settings) : AsksArp peer (arpRequest s peer.ip) where
  length_le := by rw [arpRequest, length_arpFrame]
  etherType := by rw [arpRequest, ethernet_arpFrame]
  hwType := by rw [arpRequest, arp_arpFrame]; rfl
  protoType := by rw [arpRequest, arp_arpFrame]; rfl
  opcode := by rw [arpRequest, arp_arpFrame]; rfl
  target := by rw [arpRequest, arp_arpFrame]; rfl

lemma tellsHardware_arpFrame (dst src : MacAddr) (s : Settings) (p : ArpPacket)
    (hhw : p.hwType = 1) (hproto : p.protoType = EtherType.ipv4) :
    TellsHardware s.ip (arpFrame dst src (p.answer s.mac s.ip)) where
  length_le := by rw [length_arpFrame]
  etherType := by rw [ethernet_arpFrame]
  hwType := by rw [arp_arpFrame]; exact hhw
  protoType := by rw [arp_arpFrame]; exact hproto
  opcode := by rw [arp_arpFrame]; rfl
  senderIp := by rw [arp_arpFrame]; rfl

lemma asksEcho_echoRequest (s peer : Settings) (hw : MacAddr) (sequence : UInt16) :
    AsksEcho peer (echoRequest s hw peer.ip sequence) where
  toAccepted := accepted_packet rfl (by rw [length_echoMessage]; decide)
  protocol := by rw [echoRequest, ip_packet]; rfl
  message := by
    rw [echoRequest, packetLength_packet (by rw [length_echoMessage]; decide), length_echoMessage]
    decide
  type := by
    have hlen : (echoMessage s sequence).length ≤ 1480 := by
      rw [length_echoMessage]
      decide
    obtain ⟨sum, hdecode⟩ := decode_echoMessage s sequence
    rw [← byteAt_message, echoRequest, message_packet hlen]
    · exact congrArg IcmpHeader.type hdecode
    · rw [echoRequest, packetLength_packet hlen, length_echoMessage]
      decide

lemma plain_packet {s : Settings} {hw : MacAddr} {protocol : UInt8} {peer : Ipv4Addr}
    {id : UInt16} {payload : Bytes} (h : payload.length ≤ 1480) :
    Plain (packet s hw protocol peer id payload) where
  length_le := by
    rw [length_packet]
    omega
  etherType := by rw [ethernet_packet]
  versionIhl := by rw [ip_packet]; rfl
  covers := by
    rw [packetLength_packet h]
    omega

lemma repliesToEcho_packet (s peer : Settings) (hw : MacAddr) (id sequence : UInt16) :
    RepliesToEcho s.ip peer.ip s.pingIdentifier sequence
      (packet peer hw IpProtocol.icmp s.ip id (Icmp.echoed (echoMessage s sequence))) := by
  have hlen : (Icmp.echoed (echoMessage s sequence)).length = 40 := by
    rw [Icmp.length_echoed, length_echoMessage]
  have hle : (Icmp.echoed (echoMessage s sequence)).length ≤ 1480 := by
    rw [hlen]
    decide
  obtain ⟨sum, hmessage⟩ := decode_echoMessage s sequence
  obtain ⟨sum', hdecode⟩ := Icmp.decode_echoed
    (show 8 ≤ (echoMessage s sequence).length by rw [length_echoMessage]; decide)
  rw [hmessage] at hdecode
  exact
    { toPlain := plain_packet hle
      protocol := by rw [ip_packet]; rfl
      src := by rw [ip_packet]; rfl
      dst := by rw [ip_packet]; rfl
      header := by rw [message_packet hle, hlen]; decide
      type := by rw [message_packet hle, hdecode]
      identifier_eq := by rw [message_packet hle, hdecode]; rfl
      sequence_eq := by rw [message_packet hle, hdecode]; rfl }

/-! ### The link -/

/-- The host after it has received a frame and polled. -/
def Host.served (p : Host MemoryDevice) (b : Bytes) : Host MemoryDevice :=
  { p with device := p.device.push [b] }.poll.2

/-- A frame that a host answers by itself leaves that answer, and nothing to be received. -/
lemma Host.served_eq {p : Host MemoryDevice} {b reply : Bytes} (hqueue : p.device.queue = [])
    (hscript : p.device.script = []) (hb : b ≠ []) (hlen : b.length ≤ frameSize)
    (hout : (p.reaction b).outgoing? = some reply) (hdelivery : (p.reaction b).delivery = none) :
    p.served b =
      { p with
        device := { p.device with
          sent := p.device.sent ++ [reply], receiveCalls := p.device.receiveCalls + 2 }
        frame := (p.reaction b).frame
        log := (p.served b).log } := by
  have hpushed : (p.device.push [b]).queue = [b] := by
    simp [MemoryDevice.push, hqueue]
  obtain ⟨log, hpoll⟩ := { p with device := p.device.push [b] }.poll_single hb hpushed hscript
  have hreaction : { p with device := p.device.push [b] }.reaction (b.take frameSize) =
      p.reaction b := by
    rw [List.take_of_length_le hlen]
    rfl
  rw [hreaction, hout, hdelivery] at hpoll
  unfold served
  rw [hpoll]
  simp [MemoryDevice.push, hqueue]

/-- A wire to a peer, which polls for every frame that is sent to it. -/
structure Link where
  peer : Host MemoryDevice
  /-- Frames on their way back. -/
  pending : List Bytes := []
  /-- Every frame that was sent, with those that the peer sent for it, oldest first. -/
  exchanges : List (Bytes × List Bytes) := []

namespace Link

def receive (limit : Nat) (l : Link) : Bytes × Link :=
  ((l.pending.headD []).take limit, { l with pending := l.pending.tail })

def send (b : Bytes) (l : Link) : Link :=
  let answers := (l.peer.served b).device.sent.drop l.peer.device.sent.length
  { peer := l.peer.served b
    pending := l.pending ++ answers
    exchanges := l.exchanges ++ [(b, answers)] }

instance : Device Link where
  receive limit l := (.ok (l.receive limit).1, (l.receive limit).2)
  send b l := (.ok (), l.send b)
  length_le_of_receive h := by
    cases h
    exact List.length_take_le ..

/-- Nothing is on its way in either direction, and nobody else answers the peer. -/
structure Idle (l : Link) : Prop where
  pending : l.pending = []
  queue : l.peer.device.queue = []
  script : l.peer.device.script = []

/-- What a number of requests has left of the link: for each of them the peer has sent one frame,
which has been received, and none was for an application. -/
structure Answered (l l' : Link) (n : Nat) : Prop where
  idle : l'.Idle
  exchanges : ∃ new, l'.exchanges = l.exchanges ++ new ∧ new.length = n ∧
    ∀ x ∈ new, x.2.length = 1
  settings : l'.peer.settings = l.peer.settings
  handlers : l'.peer.handlers = l.peer.handlers
  deliveries : l'.peer.deliveries = l.peer.deliveries

lemma Answered.trans {l₁ l₂ l₃ : Link} {m n : Nat} (h1 : Answered l₁ l₂ m)
    (h2 : Answered l₂ l₃ n) : Answered l₁ l₃ (m + n) := by
  obtain ⟨new₁, hnew₁, hlen₁, hone₁⟩ := h1.exchanges
  obtain ⟨new₂, hnew₂, hlen₂, hone₂⟩ := h2.exchanges
  refine ⟨h2.idle, ⟨new₁ ++ new₂, ?_, ?_, ?_⟩, h2.settings.trans h1.settings,
    h2.handlers.trans h1.handlers, h2.deliveries.trans h1.deliveries⟩
  · rw [hnew₂, hnew₁, List.append_assoc]
  · rw [List.length_append, hlen₁, hlen₂]
  · intro x hx
    rcases List.mem_append.1 hx with hx | hx
    · exact hone₁ x hx
    · exact hone₂ x hx

/-- A frame that the peer answers by itself comes back as that answer, and that is all. -/
lemma answered_of_outgoing {l : Link} (hidle : l.Idle) {b reply : Bytes} (hb : b ≠ [])
    (hlen : b.length ≤ frameSize) (hreply : reply.length ≤ frameSize)
    (hout : (l.peer.reaction b).outgoing? = some reply)
    (hdelivery : (l.peer.reaction b).delivery = none) : ∃ l', Answered l l' 1 ∧
      Device.receive frameSize (Device.send b l).2 = (.ok reply, l') := by
  obtain ⟨hpending, hqueue, hscript⟩ := hidle
  have hserved := Host.served_eq hqueue hscript hb hlen hout hdelivery
  have hsent : (l.peer.served b).device.sent = l.peer.device.sent ++ [reply] := by rw [hserved]
  have hsend : l.send b =
      { peer := l.peer.served b
        pending := [reply]
        exchanges := l.exchanges ++ [(b, [reply])] } := by
    simp [send, hsent, hpending]
  refine ⟨{ l.send b with pending := [] }, ?_, ?_⟩
  · rw [hsend, hserved]
    exact
      { idle := ⟨rfl, hqueue, hscript⟩
        exchanges := ⟨[(b, [reply])], rfl, rfl, by simp⟩
        settings := rfl
        handlers := rfl
        deliveries := rfl }
  · show (Except.ok ((l.send b).receive frameSize).1, ((l.send b).receive frameSize).2) = _
    simp [hsend, receive, List.take_of_length_le hreply]

end Link

/-! ### The two hosts -/

namespace Host

section Peer

variable {δ : Type} (p : Host δ) {b : Bytes}

lemma reaction_of_asksArp (hlen : b.length ≤ frameSize) (h : AsksArp p.settings b) :
    (p.reaction b).outgoing? = some (arpFrame (ethernet b).src p.settings.mac
      ((arp b).answer p.settings.mac p.settings.ip)) ∧ (p.reaction b).delivery = none := by
  have hholds := p.frame.holds_write hlen
  refine ⟨Frame.outgoing?_arpFrame hholds h, ?_⟩
  rw [reaction, Frame.react_of_asksArp hholds h, Reaction.delivery_note,
    Reaction.delivery_answering]

lemma reaction_of_asksEcho (hlen : b.length ≤ frameSize) (h : AsksEcho p.settings b)
    (hpacket : packetLength b ≤ 1500) :
    (p.reaction b).outgoing? = some (packet p.settings (ethernet b).src IpProtocol.icmp (ip b).src
      (ip b).id (Icmp.echoed (message b))) ∧ (p.reaction b).delivery = none := by
  have hholds := p.frame.holds_write hlen
  refine ⟨Frame.outgoing?_echoed hholds h hpacket, ?_⟩
  rw [reaction, Frame.react_of_asksEcho hholds h, Reaction.delivery_note,
    Reaction.delivery_answering]

end Peer

variable {a : Host Link} {budget : Nat}

/-- The peer tells its hardware address at once. -/
lemma learns_of_idle (hidle : a.device.Idle) (hbudget : 1 ≤ budget) : ∃ l,
    Link.Answered a.device l 1 ∧
      Learns a a.device.peer.settings.ip budget a.device.peer.settings.mac l := by
  have hlen : (arpRequest a.settings a.device.peer.settings.ip).length ≤ frameSize := by
    rw [arpRequest, length_arpFrame]
    decide
  obtain ⟨hout, hdelivery⟩ :=
    a.device.peer.reaction_of_asksArp hlen (asksArp_arpRequest a.settings _)
  rw [arpRequest, ethernet_arpFrame, arp_arpFrame] at hout
  obtain ⟨l, hanswered, hreceive⟩ := Link.answered_of_outgoing hidle (List.cons_ne_nil _ _) hlen
    (by rw [length_arpFrame]; decide) hout hdelivery
  have htells := tellsHardware_arpFrame a.settings.mac a.device.peer.settings.mac
    a.device.peer.settings
    (ArpPacket.request a.settings.mac a.settings.ip a.device.peer.settings.ip) rfl rfl
  have hlearns := Learns.intro (h := a) rfl (.here hreceive) htells hbudget
  rw [arp_arpFrame] at hlearns
  exact ⟨l, hanswered, hlearns⟩

/-- The peer answers an echo request at once. -/
lemma echoed_of_idle {l : Link} (hidle : l.Idle) (s : Settings) (hw : MacAddr)
    (sequence : UInt16) : ∃ reply l', Link.Answered l l' 1 ∧
      RepliesToEcho s.ip l.peer.settings.ip s.pingIdentifier sequence reply ∧
      Device.receive frameSize (Device.send (echoRequest s hw l.peer.settings.ip sequence) l).2 =
        (.ok reply, l') := by
  have hmessage : (echoMessage s sequence).length ≤ 1480 := by
    rw [length_echoMessage]
    decide
  have hlen : (echoRequest s hw l.peer.settings.ip sequence).length ≤ frameSize := by
    rw [echoRequest, length_packet, length_echoMessage]
    decide
  have hpacket : packetLength (echoRequest s hw l.peer.settings.ip sequence) ≤ 1500 := by
    rw [echoRequest, packetLength_packet hmessage, length_echoMessage]
    decide
  obtain ⟨hout, hdelivery⟩ :=
    l.peer.reaction_of_asksEcho hlen (asksEcho_echoRequest s _ hw sequence) hpacket
  rw [echoRequest, ethernet_packet, ip_packet, message_packet hmessage] at hout
  have hreply : (packet l.peer.settings s.mac IpProtocol.icmp s.ip sequence
      (Icmp.echoed (echoMessage s sequence))).length ≤ frameSize := by
    rw [length_packet, Icmp.length_echoed, length_echoMessage]
    decide
  obtain ⟨l', hanswered, hreceive⟩ :=
    Link.answered_of_outgoing hidle (List.cons_ne_nil _ _) hlen hreply hout hdelivery
  exact ⟨_, l', hanswered, repliesToEcho_packet s l.peer.settings s.mac sequence sequence,
    hreceive⟩

end Host

/-- **Two hosts understand each other**: over an idle link, whatever either of them is set up as and
has in its buffer, a host resolves the address of its peer and pings it with the first poll of any
budget. The peer answers each frame with one frame, and no application has a turn. -/
theorem hosts_interoperate (a : Host Link) {budget : Nat} (hidle : a.device.Idle)
    (hbudget : 1 ≤ budget) :
    ((Host.resolve a.device.peer.settings.ip budget a).1 = .ok a.device.peer.settings.mac ∧
      Link.Answered a.device (Host.resolve a.device.peer.settings.ip budget a).2.device 1) ∧
    ((Host.ping a.device.peer.settings.ip budget a).1 = .ok 1 ∧
      Link.Answered a.device (Host.ping a.device.peer.settings.ip budget a).2.device 2) := by
  obtain ⟨l, hanswered, hlearns⟩ := Host.learns_of_idle hidle hbudget
  constructor
  · obtain ⟨h', hmoved, hresolve⟩ := hlearns.resolve
    have hdevice : h'.device = l := by rw [hmoved]
    rw [hresolve, hdevice]
    exact ⟨rfl, hanswered⟩
  · obtain ⟨reply, l', hanswered', hreply, hreceive⟩ := Host.echoed_of_idle hanswered.idle
      a.settings a.device.peer.settings.mac (a.pingSequence + 1)
    rw [hanswered.settings] at hreply hreceive
    obtain ⟨h', hmoved, hping⟩ :=
      Host.ping_of_gives hlearns rfl (.here hreceive) hreply hbudget
    have hdevice : h'.device = l' := by rw [hmoved]
    rw [hping, hdevice]
    exact ⟨rfl, hanswered.trans hanswered'⟩

/-- A host on a wire to another one, which verifies checksums. -/
def Host.linked : Host Link :=
  Host.new { peer := Host.new {} { mac := ⟨2, 0, 0, 0, 0, 2⟩, ip := ⟨10, 0, 0, 2⟩,
                                   verifyChecksums := true } } {}

theorem hosts_interoperate_linked :
    (Host.resolve ⟨10, 0, 0, 2⟩ 1 Host.linked).1 = .ok ⟨2, 0, 0, 0, 0, 2⟩ ∧
      (Host.ping ⟨10, 0, 0, 2⟩ 1 Host.linked).1 = .ok 1 := by
  obtain ⟨⟨hresolve, -⟩, hping, -⟩ :=
    hosts_interoperate Host.linked ⟨rfl, rfl, rfl⟩ (Nat.le_refl 1)
  exact ⟨hresolve, hping⟩

end PacketHost
