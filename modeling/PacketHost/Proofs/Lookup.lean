import PacketHost.Proofs.Pinging
import PacketHost.Proofs.Queries
import PacketHost.Proofs.Resolution
import PacketHost.Proofs.Responses

/-!
Looking up a name, call by call.

A lookup is a question for the server's hardware address and, if that is answered, a query. The
first frame that answers the query decides, and nothing is received after it: either an address is
found in its message, or the lookup fails for what has been missed there. The message ends where the
frame that was received does, at the latest, so whatever an earlier frame has left in the buffer is
never taken for an address.
-/

namespace PacketHost

open Bytes Received

/-! ### What is sent, and what is received -/

namespace Received

/-- The frame asks `server` for the address of a name. -/
structure RequestsName (s : Settings) (hw : MacAddr) (server : Ipv4Addr) (id : UInt16)
    (name : String) (b : Bytes) : Prop extends Plain b where
  ethernet_eq : ethernet b = ⟨hw, s.mac, EtherType.ipv4⟩
  protocol : (ip b).protocol = IpProtocol.udp
  src : (ip b).src = s.ip
  dst : (ip b).dst = server
  header : 8 ≤ (message b).length
  srcPort : (Wire.decode (message b) 0 : UdpHeader).srcPort = s.dnsSourcePort
  dstPort : (Wire.decode (message b) 0 : UdpHeader).dstPort = dnsPort
  data : datagramData b = padded (Dns.queryMessage id name)
  query : Wire.decode (datagramData b) 0 = DnsHeader.query id
  labels_eq : Dns.labels ((datagramData b).drop Dns.headerLength) = (Dns.parts name).map Dns.utf8

/-- The address in an answer, and where it stands in the frame. -/
def answeredAddress (b : Bytes) : Except NetError NameAnswer :=
  (Dns.answerOffset (datagramData b)).map fun off =>
    ⟨udpDataOffset + off, Wire.decode b (udpDataOffset + off)⟩

end Received

section Datagram

variable {s : Settings} {hw : MacAddr} {server : Ipv4Addr} {id : UInt16} {data : Bytes}
  {name : String}

lemma datagramTo_eq (s : Settings) (peer : Ipv4Addr) (srcPort dstPort : UInt16) (data : Bytes) :
    ∃ header : UdpHeader,
      datagramTo s peer srcPort dstPort data = Wire.encode header ++ padded data ∧
      header.srcPort = srcPort ∧ header.dstPort = dstPort ∧
        header.length = .ofNat (8 + (padded data).length) :=
  ⟨_, rfl, rfl, rfl, rfl⟩

lemma length_padded_le (h : data.length ≤ 1471) : (padded data).length ≤ 1472 := by
  have heven := evenLength_le data.length
  rw [length_padded]
  omega

/-- What a datagram that a host sends carries is found in its frame, the padding included. -/
lemma datagram_packet (s : Settings) (hw : MacAddr) (peer : Ipv4Addr) (id srcPort dstPort : UInt16)
    (h : data.length ≤ 1471) :
    let b := packet s hw IpProtocol.udp peer id (datagramTo s peer srcPort dstPort data)
    Plain b ∧ 8 ≤ (message b).length ∧
      (Wire.decode (message b) 0 : UdpHeader).srcPort = srcPort ∧
      (Wire.decode (message b) 0 : UdpHeader).dstPort = dstPort ∧
      datagramData b = padded data := by
  obtain ⟨header, hdatagram, hsrc, hdst, hlength⟩ := datagramTo_eq s peer srcPort dstPort data
  have hheader : (Wire.encode header).length = 8 := LawfulWire.length_encode header
  have hle := length_padded_le h
  have htotal : (Wire.encode header ++ padded data).length = 8 + (padded data).length := by
    rw [List.length_append, hheader]
  have hroom : (Wire.encode header ++ padded data).length ≤ 1480 := by omega
  have hdecode : Wire.decode (Wire.encode header ++ padded data) 0 = header :=
    decode_append (x := []) header rfl
  have hpayload : header.payloadLength = (padded data).length := by
    rw [UdpHeader.payloadLength, hlength, UInt16.toNat_ofNat']
    omega
  dsimp only
  rw [hdatagram]
  refine ⟨plain_packet hroom, ?_, ?_, ?_, ?_⟩
  · rw [message_packet hroom]
    omega
  · rw [message_packet hroom, hdecode, hsrc]
  · rw [message_packet hroom, hdecode, hdst]
  · rw [datagramData, message_packet hroom, hdecode, hpayload, htotal, Nat.min_self]
    exact slice_append_right hheader

lemma requestsName_nameQuery {n : Nat} (hn : Dns.queryLength name 1471 = .ok n) :
    RequestsName s hw server id name (nameQuery s hw server id name) := by
  obtain ⟨-, hproper, hroom⟩ := Dns.queryLength_eq_ok.1 hn
  rw [← Dns.length_queryMessage_stem id] at hroom
  obtain ⟨hplain, hheader, hsrc, hdst, hdata⟩ := datagram_packet s hw server id
    s.dnsSourcePort dnsPort hroom
  obtain ⟨pad, hpad⟩ := padded_append (Dns.queryMessage id name)
  exact
    { toPlain := hplain
      ethernet_eq := by rw [nameQuery, ethernet_packet]
      protocol := by rw [nameQuery, ip_packet]; rfl
      src := by rw [nameQuery, ip_packet]; rfl
      dst := by rw [nameQuery, ip_packet]; rfl
      header := hheader
      srcPort := hsrc
      dstPort := hdst
      data := hdata
      query := by rw [nameQuery, hdata, hpad, Dns.decode_queryMessage]
      labels_eq := by rw [nameQuery, hdata, hpad, Dns.labels_queryMessage id hproper] }

end Datagram

/-! ### The course of a lookup -/

/-- The calls of a lookup, what comes of it, and the identifier that it leaves for the next one. -/
inductive LooksUp (s : Settings) (server : Ipv4Addr) (name : String) (budget : Nat) (id : UInt16) :
    List Device.Event → Except NetError NameAnswer → UInt16 → Prop
  | unresolved {events : List Device.Event} {e : NetError}
      (h : Asks (arpRequest s server) (arpAnswer? server) budget events (.error e)) :
      LooksUp s server name budget id events (.error e) id
  | unwritten {events : List Device.Event} {hw : MacAddr} {polls : Nat} {e : NetError}
      (h : Asks (arpRequest s server) (arpAnswer? server) budget events (.ok (hw, polls)))
      (hname : Dns.queryLength name 1471 = .error e) :
      LooksUp s server name budget id events (.error e) (id + 1)
  | unanswered {first second : List Device.Event} {hw : MacAddr} {polls n : Nat} {e : NetError}
      (h : Asks (arpRequest s server) (arpAnswer? server) budget first (.ok (hw, polls)))
      (hname : Dns.queryLength name 1471 = .ok n)
      (h' : Asks (nameQuery s hw server id name) (dnsAnswer? server s.dnsSourcePort id) budget
        second (.error e)) :
      LooksUp s server name budget id (first ++ second) (.error e) (id + 1)
  | answered {first second : List Device.Event} {hw : MacAddr} {polls polls' n : Nat} {b : Bytes}
      (h : Asks (arpRequest s server) (arpAnswer? server) budget first (.ok (hw, polls)))
      (hname : Dns.queryLength name 1471 = .ok n)
      (h' : Asks (nameQuery s hw server id name) (dnsAnswer? server s.dnsSourcePort id) budget
        (second ++ [.receive (.ok b)]) (.ok (datagramData b, polls'))) :
      LooksUp s server name budget id (first ++ (second ++ [.receive (.ok b)])) (answeredAddress b)
        (id + 1)

/-- The calls of a lookup that has given this answer: the query is answered by the last frame that
is received, and the address is in its message. -/
inductive NameFound (s : Settings) (server : Ipv4Addr) (name : String) (budget : Nat)
    (id : UInt16) : List Device.Event → NameAnswer → Prop
  | intro {ask told query response : Bytes} {passed quiet : List Bytes} {off : Nat}
      {address : Ipv4Addr}
      (hask : RequestsHardware s server ask)
      (hpassed : ∀ b ∈ passed, ¬ TellsHardware server b) (htold : TellsHardware server told)
      (hquery : RequestsName s (arp told).senderHw server id name query)
      (hquiet : ∀ b ∈ quiet, ¬ AnswersQuery server s.dnsSourcePort id b)
      (hresponse : AnswersQuery server s.dnsSourcePort id response)
      (hbudget : quiet.length + 1 ≤ budget)
      (hoff : Dns.answerOffset (datagramData response) = .ok off)
      (hmessage : slice (datagramData response) off (off + 4) = address.octets)
      (hreceived : slice response (udpDataOffset + off) (udpDataOffset + off + 4) =
        address.octets) :
      NameFound s server name budget id
        (.send ask (.ok ()) :: (passed ++ [told]).map (fun b => .receive (.ok b)) ++
          .send query (.ok ()) :: (quiet ++ [response]).map (fun b => .receive (.ok b)))
        ⟨udpDataOffset + off, address⟩

/-! ### What the course says -/

namespace Received

variable {server : Ipv4Addr} {port id : UInt16} {b : Bytes} {off : Nat}

/-- The message of an answer is a part of the received frame from a fixed place on. -/
lemma AnswersQuery.datagramData_eq_take (h : AnswersQuery server port id b) :
    ∃ n, datagramData b = (b.drop udpDataOffset).take n := by
  have hheader : 28 ≤ packetLength b := by
    have hlen := h.toPlain.length_message
    have hle := h.header
    omega
  exact ⟨_, datagramData_eq h.toPlain hheader⟩

/-- An address that is found is read from the message, and so from what has been received. -/
lemma AnswersQuery.slice_address (h : AnswersQuery server port id b)
    (hoff : Dns.answerOffset (datagramData b) = .ok off) :
    udpDataOffset + off + 4 ≤ b.length ∧
      slice (datagramData b) off (off + 4) =
        (Wire.decode b (udpDataOffset + off) : Ipv4Addr).octets ∧
      slice b (udpDataOffset + off) (udpDataOffset + off + 4) =
        (Wire.decode b (udpDataOffset + off) : Ipv4Addr).octets := by
  have hinside := Dns.answerOffset_le hoff
  have hlen : (datagramData b).length ≤ b.length - 42 := length_datagramData_le b
  have hroom : 42 + off + 4 ≤ b.length := by omega
  have hreceived : slice b (udpDataOffset + off) (udpDataOffset + off + 4) =
      (Wire.decode b (udpDataOffset + off) : Ipv4Addr).octets :=
    Wire.slice_eq_encode (α := Ipv4Addr) hroom
  obtain ⟨n, hdata⟩ := h.datagramData_eq_take
  have hn : off + 4 ≤ n := by
    rw [hdata, List.length_take] at hinside
    omega
  refine ⟨hroom, ?_, hreceived⟩
  rw [← hreceived, hdata, slice, slice, List.drop_take, List.take_take, List.drop_drop,
    Nat.add_sub_cancel_left, Nat.add_sub_cancel_left, Nat.min_eq_left (by omega)]

end Received

namespace LooksUp

open Device

variable {s : Settings} {server : Ipv4Addr} {name : String} {budget : Nat} {id id' : UInt16}
  {events : List Event} {result : Except NetError NameAnswer} {a : NameAnswer}

lemma nameFound (h : LooksUp s server name budget id events (.ok a) id') :
    NameFound s server name budget id events a := by
  generalize hr : Except.ok a = result at h
  cases h with
  | unresolved => cases hr
  | unwritten => cases hr
  | unanswered => cases hr
  | @answered first second hw polls polls' n b h hname h' =>
    cases hoff : Dns.answerOffset (datagramData b) with
    | error e =>
      rw [answeredAddress, hoff] at hr
      cases hr
    | ok off =>
      rw [answeredAddress, hoff] at hr
      cases hr
      obtain ⟨passed, told, rfl, hpassed, htold, -, -⟩ := h.of_ok
      obtain ⟨quiet, response, hsecond, hquiet, hresponse, rfl, hbudget⟩ := h'.of_ok
      obtain ⟨htells, rfl⟩ := arpAnswer?_eq_some.1 htold
      obtain ⟨hanswers, -⟩ := dnsAnswer?_eq_some.1 hresponse
      have hlast := hsecond
      rw [List.map_append, ← List.cons_append] at hlast
      cases (List.append_inj' hlast rfl).2
      obtain ⟨-, hmessage, hreceived⟩ := hanswers.slice_address hoff
      rw [hsecond]
      refine .intro (requestsHardware_arpRequest s server) ?_ htells
        (requestsName_nameQuery hname) ?_ hanswers hbudget hoff hmessage hreceived
      · intro x hx
        rcases hpassed x hx with rfl | hnone
        · exact fun htells => htells.ne_nil rfl
        · exact arpAnswer?_eq_none.1 hnone
      · intro x hx
        rcases hquiet x hx with rfl | hnone
        · exact fun hanswers => hanswers.ne_nil rfl
        · exact dnsAnswer?_eq_none.1 hnone

/-- A query is never taken for the question before it. -/
lemma nameQuery_ne_arpRequest (s : Settings) (hw : MacAddr) (server : Ipv4Addr) (id : UInt16)
    (name : String) : nameQuery s hw server id name ≠ arpRequest s server := by
  intro heq
  have htype := congrArg (fun b => (ethernet b).etherType) heq
  simp only [nameQuery, arpRequest, ethernet_packet, ethernet_arpFrame] at htype
  exact absurd htype (by decide)

/-- A frame that answers the query ends the lookup, whatever is in its message. -/
lemma decided {hw : MacAddr} {before between later : List Event} {b : Bytes}
    (h : LooksUp s server name budget id events result id')
    (hevents : events = before ++ .send (nameQuery s hw server id name) (.ok ()) ::
      (between ++ .receive (.ok b) :: later))
    (hb : AnswersQuery server s.dnsSourcePort id b) :
    later = [] ∧ result = answeredAddress b := by
  have ha := dnsAnswer?_eq_some.2 ⟨hb, rfl⟩
  have hsent {first : List Event} {r : Except NetError (MacAddr × Nat)}
      (hfirst : Asks (arpRequest s server) (arpAnswer? server) budget first r) :
      .send (nameQuery s hw server id name) (.ok ()) ∉ first :=
    fun hmem => nameQuery_ne_arpRequest s hw server id name (hfirst.eq_of_send_mem hmem)
  cases h with
  | unresolved h => exact absurd (by simp [hevents]) (hsent h)
  | unwritten h => exact absurd (by simp [hevents]) (hsent h)
  | unanswered h _ h' =>
    have hsecond := h'.of_append hevents (hsent h)
    rw [hsecond] at h'
    obtain ⟨-, polls, hpolls⟩ := h'.of_accepted hb.ne_nil ha
    cases hpolls
  | answered h _ h' =>
    have hsecond := h'.of_append hevents (hsent h)
    have hquestion := h'
    rw [hsecond] at hquestion
    obtain ⟨rfl, -⟩ := hquestion.of_accepted hb.ne_nil ha
    rw [← List.cons_append] at hsecond
    cases (List.append_inj' hsecond rfl).2
    exact ⟨rfl, rfl⟩

end LooksUp

namespace Host

variable {δ : Type}

/-- The end of a lookup: an address that is found in the message is read from the buffer. -/
def readAnswer (name : String) (found : Bytes × Nat) : Task δ NameAnswer := do
  let off ← Dns.answerOffset found.1
  modify (·.note (.nameAnswered name found.2))
  return ⟨udpDataOffset + off, (← get).frame.get Ipv4Addr (udpDataOffset + off)⟩

lemma readAnswer_eq (h : Host δ) (name : String) (message : Bytes) (polls : Nat) :
    (readAnswer name (message, polls) h).1 =
        (Dns.answerOffset message).map (fun off =>
          ⟨udpDataOffset + off, h.frame.get Ipv4Addr (udpDataOffset + off)⟩) ∧
      ∃ log, (readAnswer name (message, polls) h).2 = { h with log := log } := by
  rw [readAnswer, Task.bind_apply, Task.lift_apply]
  cases Dns.answerOffset message with
  | error e => exact ⟨rfl, h.log, rfl⟩
  | ok off => exact ⟨rfl, h.log ++ [.nameAnswered name polls], rfl⟩

variable [Device δ]

/-- Sending the answer that is prepared, with a note of it if it could be sent. -/
lemma finish_note_of_outgoing {h : Host δ} {p : Prepared} {b : Bytes}
    (hb : p.outgoing? = some b) (n : Note) : ∃ log,
      (finish p >>= fun _ => modify (·.note n)) h =
        ((Device.send b h.device).1.mapError .device,
          { h with frame := p.frame, device := (Device.send b h.device).2, log := log }) := by
  rw [Task.bind_apply, finish_of_outgoing hb]
  cases (Device.send b h.device).1 with
  | error reason => exact ⟨h.log, rfl⟩
  | ok sent => exact ⟨h.log ++ [n], rfl⟩

/-! ### The steps of a lookup -/

section Steps

variable {h h₁ : Host δ} {server : Ipv4Addr} {name : String} {budget : Nat} {hw : MacAddr}
  {e : NetError}

lemma resolveName_of_unresolved (hresolve : resolve server budget h = (.error e, h₁)) :
    resolveName server name budget h = (.error e, h₁) := by
  rw [resolveName, Task.bind_apply, hresolve]

/-- The query as it is staged, or what stands in the place of one. -/
def stagedQuery (h : Host δ) (server : Ipv4Addr) (name : String) (hw : MacAddr) : Frame :=
  ((h.frame.stagePacket h.settings hw IpProtocol.udp server h.dnsTransaction).stageQuery
    h.settings h.dnsTransaction name).2

/-- The identifier is used up even if there is no query to be sent. -/
lemma resolveName_of_unwritten (hresolve : resolve server budget h = (.ok hw, h₁))
    (hname : Dns.queryLength name 1471 = .error e) :
    resolveName server name budget h =
      (.error e,
        { h₁ with frame := h₁.stagedQuery server name hw
                  dnsTransaction := h₁.dnsTransaction + 1 }) := by
  have hlength := Frame.stageQuery_fst h₁.settings
    (h₁.frame.stagePacket h₁.settings hw IpProtocol.udp server h₁.dnsTransaction)
    h₁.dnsTransaction name
  rw [hname] at hlength
  rw [resolveName, Task.bind_apply, hresolve]
  simp only [Task.get_bind, Task.modify_bind]
  rw [Task.bind_apply, Task.lift_apply, hlength]
  rfl

lemma resolveName_of_written {n : Nat} (hresolve : resolve server budget h = (.ok hw, h₁))
    (hname : Dns.queryLength name 1471 = .ok n) :
    resolveName server name budget h =
      ((finish ((h₁.stagedQuery server name hw).answerUdp h₁.settings n) >>=
          fun _ => modify (·.note (.queried h₁.dnsTransaction name server))) >>=
        fun _ => waitFor budget
          (dnsAnswer? server h₁.settings.dnsSourcePort h₁.dnsTransaction) >>= readAnswer name)
        { h₁ with frame := h₁.stagedQuery server name hw
                  dnsTransaction := h₁.dnsTransaction + 1 } := by
  have hlength := Frame.stageQuery_fst h₁.settings
    (h₁.frame.stagePacket h₁.settings hw IpProtocol.udp server h₁.dnsTransaction)
    h₁.dnsTransaction name
  rw [hname] at hlength
  rw [resolveName, Task.bind_apply, hresolve]
  simp only [Task.get_bind, Task.modify_bind]
  rw [Task.bind_apply, Task.lift_apply, hlength, bind_assoc]
  rfl

/-- The query goes out, staged in what the first question has left in the buffer. -/
lemma finish_stagedQuery (h : Host δ) (server : Ipv4Addr) (hw : MacAddr) {n : Nat}
    (hname : Dns.queryLength name 1471 = .ok n) :
    let p := (h.stagedQuery server name hw).answerUdp h.settings n
    let query := nameQuery h.settings hw server h.dnsTransaction name
    ∃ log, (finish p >>= fun _ => modify (·.note (.queried h.dnsTransaction name server)))
        { h with frame := h.stagedQuery server name hw
                 dnsTransaction := h.dnsTransaction + 1 } =
      ((Device.send query h.device).1.mapError .device,
        { h with frame := p.frame
                 device := (Device.send query h.device).2
                 dnsTransaction := h.dnsTransaction + 1
                 log := log }) :=
  finish_note_of_outgoing
    (Frame.outgoing?_of_queryLength h.settings h.frame hw server h.dnsTransaction hname) _

end Steps

/-- What is known of a lookup from the calls it has made, whatever comes of it. -/
structure Lookup (h : Host δ) (server : Ipv4Addr) (name : String) (budget : Nat)
    (events : List Device.Event) (done : Except NetError NameAnswer × Host δ) : Prop where
  called : Called { h with dnsTransaction := done.2.dnsTransaction } done.2 events
  course : LooksUp h.settings server name budget h.dnsTransaction events done.1
    done.2.dnsTransaction
  /-- The frame that an address has been found in is in the buffer. -/
  holds {a : NameAnswer} {before : List Device.Event} {b : Bytes} :
    done.1 = .ok a → events = before ++ [.receive (.ok b)] → done.2.frame.Holds b

section Assembly

variable {h h₁ h₂ : Host δ} {server : Ipv4Addr} {name : String} {budget n : Nat} {hw : MacAddr}
  {polls : Nat} {first second : List Device.Event}

lemma Lookup.of_unwritten {e : NetError} {staged : Frame}
    (hasks : Asks (arpRequest h.settings server) (arpAnswer? server) budget first
      (.ok (hw, polls)))
    (hfirst : Called h h₁ first) (hname : Dns.queryLength name 1471 = .error e) :
    h.Lookup server name budget first
      (.error e, { h₁ with frame := staged, dnsTransaction := h₁.dnsTransaction + 1 }) where
  called := by
    have hmoved := hfirst.moved
    unfold Moved at hmoved
    refine ⟨hfirst.trace, ?_⟩
    unfold Moved
    rw [hmoved]
  course := by
    have htransaction : h₁.dnsTransaction = h.dnsTransaction := by rw [hfirst.moved]
    rw [htransaction]
    exact .unwritten hasks hname
  holds := nofun

/-- The two questions of a lookup, the second with the identifier that was next. -/
structure Questions (h h₂ : Host δ) (server : Ipv4Addr) (name : String) (budget : Nat)
    (first second : List Device.Event) (result : Except NetError (Bytes × Nat)) : Prop where
  called : Called { h with dnsTransaction := h.dnsTransaction + 1 } h₂ (first ++ second)
  asked : ∃ hw polls n,
    Asks (arpRequest h.settings server) (arpAnswer? server) budget first (.ok (hw, polls)) ∧
      Dns.queryLength name 1471 = .ok n ∧
      Asks (nameQuery h.settings hw server h.dnsTransaction name)
        (dnsAnswer? server h.settings.dnsSourcePort h.dnsTransaction) budget second result

lemma Questions.transaction_eq {result : Except NetError (Bytes × Nat)}
    (hq : Questions h h₂ server name budget first second result) :
    h₂.dnsTransaction = h.dnsTransaction + 1 := by
  rw [hq.called.moved]

lemma Questions.lookup_of_error {e : NetError}
    (hq : Questions h h₂ server name budget first second (.error e)) :
    h.Lookup server name budget (first ++ second) (.error e, h₂) where
  called := by
    rw [hq.transaction_eq]
    exact hq.called
  course := by
    obtain ⟨hw, polls, n, hasks, hname, hasks'⟩ := hq.asked
    rw [hq.transaction_eq]
    exact .unanswered hasks hname hasks'
  holds := nofun

/-- The address is read from the frame that has been received last. -/
lemma Questions.lookup_of_ok {message : Bytes}
    (hq : Questions h h₂ server name budget first second (.ok (message, polls)))
    (hholds : ∀ before b, second = before ++ [.receive (.ok b)] → h₂.frame.Holds b) :
    h.Lookup server name budget (first ++ second) (readAnswer name (message, polls) h₂) := by
  obtain ⟨hw, polls₁, n, hasks, hname, hasks'⟩ := hq.asked
  obtain ⟨quiet, response, hsecond, -, hresponse, -, -⟩ := hasks'.of_ok
  obtain ⟨hanswers, rfl⟩ := dnsAnswer?_eq_some.1 hresponse
  rw [List.map_append, ← List.cons_append] at hsecond
  have hframe : h₂.frame.Holds response := hholds _ _ hsecond
  obtain ⟨hresult, log, hread⟩ := readAnswer_eq h₂ name (datagramData response) polls
  have haddress : (readAnswer name (datagramData response, polls) h₂).1 =
      answeredAddress response := by
    rw [hresult, answeredAddress]
    cases hoff : Dns.answerOffset (datagramData response) with
    | error e => rfl
    | ok off =>
      have hget : h₂.frame.get Ipv4Addr (udpDataOffset + off) =
          Wire.decode response (udpDataOffset + off) :=
        hframe.get_eq (hanswers.slice_address hoff).1
      rw [Except.map, Except.map, hget]
  have hnext : (readAnswer name (datagramData response, polls) h₂).2.dnsTransaction =
      h.dnsTransaction + 1 := by
    rw [hread]
    exact hq.transaction_eq
  refine ⟨?_, ?_, ?_⟩
  · have hmoved := hq.called.moved
    rw [hnext, hread]
    refine ⟨hq.called.trace, ?_⟩
    unfold Moved at hmoved ⊢
    rw [hmoved]
  · rw [hnext, haddress, hsecond]
    rw [hsecond] at hasks'
    exact .answered hasks hname hasks'
  · intro a before b _ hevents
    rw [hsecond, ← List.append_assoc] at hevents
    cases (List.append_inj' hevents rfl).2
    rw [hread]
    exact hframe

end Assembly

lemma resolveName_lookup (h : Host δ) (server : Ipv4Addr) (name : String) (budget : Nat) :
    ∃ events, h.Lookup server name budget events (resolveName server name budget h) := by
  obtain ⟨first, result, hasks, hresult, hfirst⟩ := h.resolve_asks server budget
  generalize hresolve : resolve server budget h = run at hresult hfirst
  obtain ⟨r, h₁⟩ := run
  dsimp only at hresult hfirst
  subst hresult
  have hsettings : h₁.settings = h.settings := by rw [hfirst.moved]
  have hsequence : h₁.pingSequence = h.pingSequence := by rw [hfirst.moved]
  have htransaction : h₁.dnsTransaction = h.dnsTransaction := by rw [hfirst.moved]
  rcases result with e | ⟨hw, polls⟩
  · rw [resolveName_of_unresolved hresolve]
    refine ⟨first, ?_, ?_, nofun⟩
    · rw [htransaction]
      exact hfirst
    · rw [htransaction]
      exact .unresolved hasks
  cases hname : Dns.queryLength name 1471 with
  | error e =>
    rw [resolveName_of_unwritten hresolve hname]
    exact ⟨first, .of_unwritten hasks hfirst hname⟩
  | ok n =>
    obtain ⟨log, hsent⟩ := h₁.finish_stagedQuery server hw hname
    obtain ⟨second, result, h₂, hasks', hsecond, hholds, hrun⟩ := asks_of_send hsent budget
      (dnsAnswer? server h₁.settings.dnsSourcePort h₁.dnsTransaction)
    rw [resolveName_of_written hresolve hname, hrun]
    rw [hsettings, htransaction] at hasks'
    have hcalled : Called { h₁ with dnsTransaction := h.dnsTransaction + 1 } h₂ second := by
      rw [← htransaction]
      exact ⟨hsecond.trace, hsecond.moved⟩
    rw [hsequence] at hcalled
    have hquestions : Questions h h₂ server name budget first second result :=
      ⟨hfirst.append hcalled, hw, polls, n, hasks, hname, hasks'⟩
    rcases result with e | ⟨message, polls'⟩
    · exact ⟨first ++ second, hquestions.lookup_of_error⟩
    · exact ⟨first ++ second, hquestions.lookup_of_ok hholds⟩

/-- What follows for an answer, and from the first frame that answers the query. -/
structure SoundLookup (h : Host δ) (server : Ipv4Addr) (name : String) (budget : Nat)
    (events : List Device.Event) (done : Except NetError NameAnswer × Host δ) : Prop
    extends h.Lookup server name budget events done where
  found {a : NameAnswer} : done.1 = .ok a →
    NameFound h.settings server name budget h.dnsTransaction events a ∧
      done.2.frame.slice a.offset (a.offset + 4) = a.address.octets
  /-- A query that is sent is answered by one frame, the last that is received. -/
  decided {hw : MacAddr} {before between later : List Device.Event} {b : Bytes} :
    events = before ++ .send (nameQuery h.settings hw server h.dnsTransaction name) (.ok ()) ::
      (between ++ .receive (.ok b) :: later) →
    AnswersQuery server h.settings.dnsSourcePort h.dnsTransaction b →
      later = [] ∧ done.1 = answeredAddress b ∧
        ∀ e, Dns.answerOffset (datagramData b) = .error e →
          done.1 = .error e ∧
            ∃ k > (datagramData b).length, e = .sizeMismatch k (datagramData b).length

end Host

/-- **A lookup is sound, and its answer is fresh**: an address is given only if both questions have
been answered, and then it is in the first frame that answers the query, in the bytes that have been
received of it. If no address can be found there, that is the result, and nothing more is received.
-/
theorem resolveName_sound {δ : Type} [Device δ] (h : Host δ) (server : Ipv4Addr) (name : String)
    (budget : Nat) : ∃ events,
    h.SoundLookup server name budget events (Host.resolveName server name budget h) := by
  obtain ⟨events, hlookup⟩ := h.resolveName_lookup server name budget
  refine ⟨events, hlookup, ?_, ?_⟩
  · intro a ha
    have hcourse := hlookup.course
    rw [ha] at hcourse
    have hfound := hcourse.nameFound
    refine ⟨hfound, ?_⟩
    cases hfound with
    | @intro ask told query response passed quiet off address _ _ _ _ _ hanswers _ hoff _
        hreceived =>
      obtain ⟨hroom, -, -⟩ := hanswers.slice_address hoff
      have hlast : (.send ask (.ok ()) :: (passed ++ [told]).map (fun b => .receive (.ok b)) ++
          .send query (.ok ()) :: (quiet ++ [response]).map (fun b => .receive (.ok b)) :
            List Device.Event) =
          (.send ask (.ok ()) :: (passed ++ [told]).map (fun b => .receive (.ok b)) ++
            .send query (.ok ()) :: quiet.map (fun b => .receive (.ok b))) ++
              [.receive (.ok response)] := by
        simp
      rw [(hlookup.holds ha hlast).slice_eq hroom, hreceived]
  · intro hw before between later b hevents hb
    obtain ⟨hlater, hresult⟩ := hlookup.course.decided hevents hb
    refine ⟨hlater, hresult, fun e he => ⟨?_, ?_⟩⟩
    · rw [hresult, answeredAddress, he]
      rfl
    · have hwalk := Dns.answerWalk_answerOffset (datagramData b)
      rw [he] at hwalk
      cases hwalk with
      | ranOut hk => exact ⟨_, hk, rfl⟩

end PacketHost
