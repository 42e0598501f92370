import PacketHost.Proofs.Dispatch
import PacketHost.Proofs.Outgoing

/-!
Two ways to answer a datagram or a segment.

An application can leave a reply when it has its turn, or do nothing and have the host answer what
it received last. The first way finds its place and its room in the exchange, the second reads them
off the buffer again. They do the same: what both come to is `sendOver`.
-/

namespace PacketHost

open Bytes Received

/-! ### Applications and their registrations -/

/-- An application that leaves a reply. -/
def Handler.replying (name : String) (data : Bytes) : Handler := ⟨name, fun _ _ => [.reply data]⟩

/-- An application that does nothing. -/
def Handler.quiet (name : String) : Handler := ⟨name, fun _ _ => []⟩

/-- Answers what has been received last, as it is for an application with this registration. -/
def Binding.send {δ : Type} [Device δ] (data : Bytes) : Binding → Task δ Unit
  | .tcp _ _ | .defaultTcp => Host.tcpSend data
  | .udp _ | .defaultUdp => Host.udpSend data

/-- A frame is for whatever application has this registration. -/
inductive Received.Reaches (s : Settings) (r : Registry) (b : Bytes) : Binding → Prop
  | udp (carries : CarriesDatagram s b) : Reaches s r b (.udp (udp b).dstPort)
  | defaultUdp (carries : CarriesDatagram s b) (free : r.udp.get? (udp b).dstPort = none) :
    Reaches s r b .defaultUdp
  | tcp (route : TcpRoute) (carries : CarriesSegment s b)
      (psh : (tcp b).has TcpFlag.psh = true) : Reaches s r b (.tcp (tcp b).dstPort route)
  | defaultTcp (carries : CarriesSegment s b) (psh : (tcp b).has TcpFlag.psh = true)
      (free : r.tcp.get? (tcp b).dstPort = none) : Reaches s r b .defaultTcp

namespace Registry

variable (r : Registry) (handler handler' : Handler)

lemma udpHandler?_register_udp (port : UInt16) :
    (r.register handler (.udp port)).udpHandler? port = some handler := by
  simp [register, udpHandler?, PortMap.get?_insert]

lemma tcpHandler?_register_tcp (port : UInt16) (route : TcpRoute) :
    (r.register handler (.tcp port route)).tcpHandler? port = some handler := by
  simp [register, tcpHandler?, PortMap.get?_insert]

lemma udpHandler?_register_default {port : UInt16} (h : r.udp.get? port = none) :
    (r.register handler .defaultUdp).udpHandler? port = some handler := by
  simp [register, udpHandler?, h]

lemma tcpHandler?_register_default {port : UInt16} (h : r.tcp.get? port = none) :
    (r.register handler .defaultTcp).tcpHandler? port = some handler := by
  simp [register, tcpHandler?, h]

/-- Routes belong to registrations, not to applications. -/
lemma isFramed_register (binding : Binding) (port : UInt16) :
    (r.register handler binding).isFramed port = (r.register handler' binding).isFramed port := by
  cases binding with
  | tcp at' route =>
    simp only [register, isFramed, tcpRoute?, PortMap.get?_insert]
    split <;> rfl
  | defaultTcp => rfl
  | udp at' => rfl
  | defaultUdp => rfl

end Registry

/-! ### One frame -/

/-- The reaction is the prepared answer, and the application has been told how it went. -/
structure Reaction.Matches (x : Reaction) (p : Prepared) : Prop where
  frame : x.frame = p.frame
  outgoing : x.outgoing? = p.outgoing?
  delivery : ∃ d, x.delivery = some d ∧ d.outcomes = [p.result.map fun _ => ()]

/-- There is a frame to send, or too little room for the data. -/
def Prepared.SentOrRefused (p : Prepared) (data : Bytes) : Prop :=
  (∃ len, p.result = .ok len) ∨
    ∃ capacity < data.length, p.result = .error (.payloadTooLarge data.length capacity)

namespace Frame

variable {s : Settings} {r : Registry} {turn : Nat} {b data : Bytes} {f : Frame} {c : Call}
  {name name' : String}

/-- Data in the place of a request, and an answer made of it if there is room. -/
def sendOver (f : Frame) (c : Call) (answer : Frame → Nat → Prepared) (data : Bytes) : Prepared :=
  if c.capacity < data.length then ⟨f, .error (.payloadTooLarge data.length c.capacity)⟩
  else answer (f.write c.start data) data.length

lemma turned_quiet (hc : c.handler = .quiet name) : f.turned c turn = f := by
  rw [turned, hc]
  exact f.write_slice (by decide)

/-- A reply is written to the frame and nowhere else. -/
lemma write_region (h : data.length ≤ c.capacity) :
    f.write c.start ((f.exchange c).write 0 data).region = f.write c.start data := by
  have hfit : maxFrameLength ≤ frameSize := by decide
  have hsize := f.length_region_exchange c
  rw [Call.capacity] at h
  ext i hi
  rw [byte_write, byte_write, Exchange.length_region_write, hsize, Exchange.byteAt_write,
    capacity_exchange, Call.capacity]
  by_cases hdata : c.start ≤ i ∧ i < c.start + data.length
  · rw [if_pos (by omega), if_pos (by omega), if_pos (by omega), Nat.sub_zero]
  · rw [if_neg (show ¬ (c.start ≤ i ∧ i < c.start + data.length ∧ i < frameSize) by omega)]
    split
    next hin =>
      rw [if_neg (by omega), exchange, Exchange.start, byteAt_slice, if_pos (by omega),
        Nat.add_sub_cancel' hin.1]
    next => rfl

/-- The only reply there is goes out as it is sent, or is refused as it is refused. -/
lemma matches_replying {kind : ReplyKind} {answer : Frame → Nat → Prepared} {len : Nat}
    (hc : c.handler = .replying name data)
    (hok : data.length ≤ c.capacity →
      (answer (f.write c.start data) data.length).result = .ok len) :
    (Reaction.called kind answer (f.takeTurn c turn)).Matches (f.sendOver c answer data) := by
  have hdone : (f.exchange c).performAll (c.handler.respond turn (f.exchange c)) =
      if c.capacity < data.length then
        ([.error (.payloadTooLarge data.length c.capacity)], f.exchange c)
      else
        ([.ok ()], { (f.exchange c).write 0 data with reply := some data.length }) := by
    rw [hc, ← f.capacity_exchange c]
    simp only [Handler.replying, Exchange.performAll, Exchange.perform, Exchange.setReply]
    split <;> rfl
  by_cases hfit : c.capacity < data.length
  · rw [if_pos hfit] at hdone
    have hturned : f.turned c turn = f := by
      rw [turned, Exchange.after, hdone]
      exact f.write_slice (by decide)
    have hreply : ((f.exchange c).after turn c.handler).reply = none := by
      rw [Exchange.after, hdone]
      rfl
    rw [sendOver, if_pos hfit, takeTurn, hturned, hreply]
    refine ⟨rfl, rfl, _, rfl, ?_⟩
    rw [Exchange.delivery, hdone]
    rfl
  · rw [if_neg hfit] at hdone
    have hturned : f.turned c turn = f.write c.start data := by
      rw [turned, Exchange.after, hdone]
      exact f.write_region (Nat.not_lt.1 hfit)
    have hreply : ((f.exchange c).after turn c.handler).reply = some data.length := by
      rw [Exchange.after, hdone]
    rw [sendOver, if_neg hfit, takeTurn, hturned, hreply]
    refine ⟨rfl, rfl, _, rfl, ?_⟩
    rw [Exchange.delivery, hdone, hok (Nat.not_lt.1 hfit)]
    rfl

/-- The buffer still holds the packet that an application has been given. -/
lemma holdsPacket_of_agreeOn {k : Frame} (hf : f.Holds b) (h : Accepted s b)
    (hk : AgreeOn 0 transportOffset k f) : k.holdsPacket (ip b).protocol = true := by
  simp [holdsPacket, get_ethernet_accepted hf h hk, get_ipv4_accepted hf h hk, h.etherType,
    Ipv4Header.isPlain, h.plain]

lemma sendUdp_eq (hf : f.Holds b) (h : CarriesDatagram s b) (handler : Handler) :
    (f.offeringDatagram b).sendUdp s data =
      (f.offeringDatagram b).sendOver (datagramCall b handler) (fun g len => g.answerUdp s len)
        data := by
  have hpacket : (f.offeringDatagram b).holdsPacket IpProtocol.udp = true := by
    rw [← h.protocol]
    exact holdsPacket_of_agreeOn hf h.toAccepted (agreeOn_offeringDatagram h.toAccepted)
  rw [sendUdp, if_neg (by rw [hpacket]; decide)]
  rfl

lemma sendTcp_eq (hf : f.Holds b) (h : CarriesSegment s b) (handler : Handler) :
    (f.offeringSegment b).sendTcp s r data =
      (f.offeringSegment b).sendOver (segmentCall b handler) (fun g len => g.answerTcp s r len)
        data := by
  have hpacket : (f.offeringSegment b).holdsPacket IpProtocol.tcp = true := by
    rw [← h.protocol]
    exact holdsPacket_of_agreeOn hf h.toAccepted (agreeOn_offeringSegment h.toAccepted)
  have hoff : ((f.offeringSegment b).get TcpHeader transportOffset).dataOffset =
      (tcp b).dataOffset := by
    rw [offeringSegment, get_put_tcp, TcpHeader.dataOffset_swapForReply]
  have hcapacity : (segmentCall b handler).capacity =
      maxFrameLength - (transportOffset + (tcp b).dataOffset + 1) := by
    rw [Call.capacity, Nat.sub_sub]
    rfl
  rw [sendTcp, hoff, if_neg (by rw [hpacket]; decide), if_neg (Nat.not_lt.2 h.offset_ge),
    sendOver, hcapacity]
  rfl

/-! ### Both ways, for one frame -/

lemma sentOrRefused_sendOver {answer : Frame → Nat → Prepared} {len : Nat}
    (hok : data.length ≤ c.capacity →
      (answer (f.write c.start data) data.length).result = .ok len) :
    (f.sendOver c answer data).SentOrRefused data := by
  unfold sendOver
  split
  next hfit => exact .inr ⟨c.capacity, hfit, rfl⟩
  next hfit => exact .inl ⟨len, hok (Nat.not_lt.1 hfit)⟩

lemma called_quiet (f : Frame) (c : Call) (turn : Nat) (hc : c.handler = .quiet name)
    (kind : ReplyKind) (answer : Frame → Nat → Prepared) :
    (Reaction.called kind answer (f.takeTurn c turn)).frame = f ∧
      (Reaction.called kind answer (f.takeTurn c turn)).outgoing? = none := by
  have hreply : ((f.exchange c).after turn c.handler).reply = none := by
    rw [hc]
    rfl
  rw [takeTurn, turned_quiet hc, hreply]
  exact ⟨rfl, rfl⟩

/-- With one application replying and another one quiet, sending makes up for the reply. -/
lemma matches_datagram (hf : f.Holds b) (h : CarriesDatagram s b) {r₁ r₂ : Registry}
    (h₁ : r₁.udpHandler? (udp b).dstPort = some (.replying name data))
    (h₂ : r₂.udpHandler? (udp b).dstPort = some (.quiet name')) :
    (f.react s r₂ turn b.length).outgoing? = none ∧
      (f.react s r₁ turn b.length).Matches
        ((f.react s r₂ turn b.length).frame.sendUdp s data) ∧
      ((f.react s r₂ turn b.length).frame.sendUdp s data).SentOrRefused data := by
  have hok : data.length ≤ (datagramCall b (.replying name data)).capacity →
      (((f.offeringDatagram b).write udpDataOffset data).answerUdp s data.length).result =
        .ok (transportOffset + (8 + evenLength data.length)) := by
    intro hfit
    rw [answerUdp_of_le s _ hfit]
  obtain ⟨hframe, hout⟩ := called_quiet (f.offeringDatagram b)
    (datagramCall b (.quiet name')) turn rfl .udp fun g len => g.answerUdp s len
  rw [react_of_datagram hf h h₁, react_of_datagram hf h h₂, hframe,
    sendUdp_eq hf h (.replying name data)]
  exact ⟨hout, matches_replying rfl hok, sentOrRefused_sendOver hok⟩

lemma matches_segment (hf : f.Holds b) (h : CarriesSegment s b)
    (hpsh : (tcp b).has TcpFlag.psh = true) {r₁ r₂ : Registry}
    (h₁ : r₁.tcpHandler? (tcp b).dstPort = some (.replying name data))
    (h₂ : r₂.tcpHandler? (tcp b).dstPort = some (.quiet name'))
    (hframed : ∀ port, r₁.isFramed port = r₂.isFramed port) :
    (f.react s r₂ turn b.length).outgoing? = none ∧
      (f.react s r₁ turn b.length).Matches
        ((f.react s r₂ turn b.length).frame.sendTcp s r₂ data) ∧
      ((f.react s r₂ turn b.length).frame.sendTcp s r₂ data).SentOrRefused data := by
  have hge := h.offset_ge
  have hoff : (((f.offeringSegment b).write (transportOffset + (tcp b).dataOffset) data).get
      TcpHeader transportOffset).dataOffset = (tcp b).dataOffset := by
    have hwrite : AgreeOn 0 (transportOffset + 20) ((f.offeringSegment b).write
        (transportOffset + (tcp b).dataOffset) data) (f.offeringSegment b) :=
      agreeOn_write (.inr (Nat.add_le_add_left hge transportOffset))
    rw [hwrite.get_tcp (Nat.le_refl 54), offeringSegment, get_put_tcp,
      TcpHeader.dataOffset_swapForReply]
  have hok : data.length ≤ (segmentCall b (.replying name data)).capacity →
      (((f.offeringSegment b).write (transportOffset + (tcp b).dataOffset) data).answerTcp s r₂
        data.length).result =
          .ok (transportOffset + ((tcp b).dataOffset + evenLength data.length)) := by
    intro hfit
    have hstart := segmentCall_start_lt b (.replying name data)
    have hlt : transportOffset + (tcp b).dataOffset + data.length < maxFrameLength := by
      unfold Call.capacity at hfit
      change 34 + (tcp b).dataOffset < 1514 at hstart
      change data.length ≤ 1514 - (34 + (tcp b).dataOffset) - 1 at hfit
      show 34 + (tcp b).dataOffset + data.length < 1514
      omega
    rw [answerTcp_of_lt s r₂ _ hoff hge hlt]
  have hanswer : (fun (g : Frame) len => g.answerTcp s r₁ len) =
      fun g len => g.answerTcp s r₂ len := by
    funext g len
    simp only [answerTcp, hframed]
  obtain ⟨hframe, hout⟩ := called_quiet (f.offeringSegment b)
    (segmentCall b (.quiet name')) turn rfl .tcpData fun g len => g.answerTcp s r₂ len
  rw [react_of_segment hf h hpsh h₁, react_of_segment hf h hpsh h₂, hframe, hanswer,
    sendTcp_eq hf h (.replying name data)]
  exact ⟨hout, matches_replying rfl hok, sentOrRefused_sendOver hok⟩

end Frame

/-! ### Both ways, for a host -/

/-- The answer that has been prepared when what has been received last is answered. -/
def Binding.prepare (s : Settings) (r : Registry) (f : Frame) (data : Bytes) : Binding → Prepared
  | .tcp _ _ | .defaultTcp => f.sendTcp s r data
  | .udp _ | .defaultUdp => f.sendUdp s data

lemma Binding.send_eq {δ : Type} [Device δ] (binding : Binding) (data : Bytes) (h : Host δ) :
    binding.send data h =
      Host.finish (binding.prepare h.settings h.handlers h.frame data) h := by
  cases binding <;> rfl

lemma Received.Reaches.accepted {s : Settings} {r : Registry} {b : Bytes} {binding : Binding}
    (h : Reaches s r b binding) : Accepted s b := by
  cases h with
  | udp carries => exact carries.toAccepted
  | defaultUdp carries => exact carries.toAccepted
  | tcp route carries => exact carries.toAccepted
  | defaultTcp carries => exact carries.toAccepted

/-- Of two hosts that were the same before, one whose application has replied, and one that has sent
the same data afterwards: nothing that was sent and nothing in the buffer tells them apart, and the
application has been told what the sender was told. -/
structure Host.AnswersAlike (h : Host MemoryDevice) (data : Bytes) (replied : Host MemoryDevice)
    (sent : Except NetError Unit × Host MemoryDevice) : Prop where
  frame : replied.frame = sent.2.frame
  device : replied.device = sent.2.device
  told : ∃ d, replied.deliveries = h.deliveries ++ [d] ∧ d.outcomes = [sent.1]
  outcome :
    (sent.1 = .ok () ∧ ∃ g, sent.2.device.sent = h.device.sent ++ [g]) ∨
      ∃ capacity < data.length, sent.1 = .error (.payloadTooLarge data.length capacity) ∧
        sent.2.device.sent = h.device.sent

lemma Host.reaction_matches {δ : Type} (h : Host δ) {b : Bytes} {binding : Binding}
    (hb : Reaches h.settings h.handlers b binding) (hlen : b.length ≤ frameSize)
    (name name' : String) (data : Bytes) :
    let quiet := h.register (.quiet name') binding
    let prepared :=
      binding.prepare quiet.settings quiet.handlers (quiet.reaction b).frame data
    (quiet.reaction b).outgoing? = none ∧
      ((h.register (.replying name data) binding).reaction b).Matches prepared ∧
      prepared.SentOrRefused data := by
  have hf : (h.frame.write 0 b).Holds b := Frame.holds_write h.frame hlen
  cases hb with
  | udp carries =>
    exact Frame.matches_datagram hf carries (Registry.udpHandler?_register_udp _ _ _)
      (Registry.udpHandler?_register_udp _ _ _)
  | defaultUdp carries free =>
    exact Frame.matches_datagram hf carries (Registry.udpHandler?_register_default _ _ free)
      (Registry.udpHandler?_register_default _ _ free)
  | tcp route carries psh =>
    exact Frame.matches_segment hf carries psh (Registry.tcpHandler?_register_tcp _ _ _ route)
      (Registry.tcpHandler?_register_tcp _ _ _ route) fun port =>
        Registry.isFramed_register _ _ _ _ port
  | defaultTcp carries psh free =>
    exact Frame.matches_segment hf carries psh (Registry.tcpHandler?_register_default _ _ free)
      (Registry.tcpHandler?_register_default _ _ free) fun port =>
        Registry.isFramed_register _ _ _ _ port

/-- **Replying is sending**: for a frame that is for an application, the application's reply has the
same effect as the same data sent once the application has had its turn. -/
theorem reply_answersAlike_send (h : Host MemoryDevice) {b : Bytes} {binding : Binding}
    (hqueue : h.device.queue = [b]) (hscript : h.device.script = [])
    (hb : Reaches h.settings h.handlers (b.take frameSize) binding) (name name' : String)
    (data : Bytes) :
    h.AnswersAlike data (h.register (.replying name data) binding).poll.2
      (binding.send data (h.register (.quiet name') binding).poll.2) := by
  have hne : b ≠ [] := by
    rintro rfl
    exact absurd hb.accepted.length_le (by decide)
  obtain ⟨log₁, hpoll₁⟩ :=
    (h.register (.replying name data) binding).poll_single hne hqueue hscript
  obtain ⟨log₂, hpoll₂⟩ := (h.register (.quiet name') binding).poll_single hne hqueue hscript
  obtain ⟨hquiet, ⟨hframe, hout, d, hdelivery, houtcomes⟩, hresult⟩ :=
    h.reaction_matches hb (List.length_take_le _ _) name name' data
  rw [hpoll₁, hpoll₂, hquiet, hframe, hout, hdelivery, Binding.send_eq]
  dsimp only
  generalize binding.prepare _ _ _ data = prepared at *
  refine ⟨?_, ?_, ⟨d, rfl, ?_⟩, ?_⟩
  · rw [Host.finish_eq]
  · rw [Host.device_finish_memory]
    · rw [Option.toList_none, List.append_nil]
      rfl
    · exact hscript
  · rw [Host.result_finish, houtcomes]
  · rw [Host.device_finish_memory, Host.result_finish, Option.toList_none, List.append_nil,
      Prepared.outgoing?]
    · rcases hresult with ⟨len, hok⟩ | ⟨capacity, hlt, herror⟩
      · rw [hok]
        exact .inl ⟨rfl, _, rfl⟩
      · rw [herror]
        exact .inr ⟨capacity, hlt, rfl, List.append_nil _⟩
    · exact hscript

/-- A new host with that datagram pending, for an application on its port. -/
def Host.serving (handler : Handler) : Host MemoryDevice :=
  (Host.new { queue := [oddDatagram] } {}).register handler (.udp 7)

/-- Its three bytes are replied to or sent. -/
theorem reply_answersAlike_send_oddDatagram :
    Reaches {} {} (oddDatagram.take frameSize) (.udp 7) ∧
      Host.AnswersAlike (Host.new { queue := [oddDatagram] } {}) [0x6f, 0x64, 0x64]
        (Host.serving (.replying "reply" [0x6f, 0x64, 0x64])).poll.2
        (Host.udpSend [0x6f, 0x64, 0x64] (Host.serving (.quiet "quiet")).poll.2) := by
  have hcarries : CarriesDatagram {} (oddDatagram.take frameSize) := by decide
  have hreaches : Reaches {} {} (oddDatagram.take frameSize) (.udp 7) := .udp hcarries
  exact ⟨hreaches, reply_answersAlike_send (Host.new { queue := [oddDatagram] } {}) rfl rfl
    hreaches "reply" "quiet" [0x6f, 0x64, 0x64]⟩

end PacketHost
