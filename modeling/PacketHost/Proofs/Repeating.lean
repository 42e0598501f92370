import PacketHost.Proofs.Endpoints
import PacketHost.Proofs.Unanswered

/-!
Sends over one record, one after the other.

No frame is received between them, so each finds in the buffer what the one before has left there,
and a run hands the device the frames of `answersTo`. What a datagram has been received in is a
record that nothing has been done to, and the frames go back and forth between the same two ends. A
segment is kept with its ports exchanged and its addresses not. The answer puts that right, but the
next one exchanges the addresses once more and not the ports, and every other frame has the address
of one end and the port of the other.
-/

namespace PacketHost

open Bytes Received

/-! ### What a record leaves to be done -/

namespace Frame

variable {s : Settings} {r : Registry} {data : Bytes} {t : Transport} {f g : Frame}

/-- The record in the buffer can be answered. -/
def Ready (f : Frame) : Transport → Prop
  | .udp => f.Stages IpProtocol.udp
  | .tcp => f.Stages IpProtocol.tcp ∧ 20 ≤ f.stagedOffset

/-- How much data there is room for in the answer. -/
def room (f : Frame) : Transport → Nat
  | .udp => 1471
  | .tcp => 1479 - f.stagedOffset

lemma admits_iff : f.Admits data t ↔ f.Ready t ∧ data.length ≤ f.room t := by
  cases t with
  | udp => rfl
  | tcp => exact and_assoc.symm

/-- Too much data leaves the record as it is. -/
lemma prepare_of_lt (hready : f.Ready t) (hlen : f.room t < data.length) :
    f.prepare s r data t = ⟨f, .error (.payloadTooLarge data.length (f.room t))⟩ := by
  cases t with
  | udp => exact sendUdp_of_refusal (.tooLarge hready hlen)
  | tcp => exact sendTcp_of_refusal (.tooLarge hready.1 hready.2 hlen)

namespace Answers

lemma ready (h : Answers s r data t f g) : g.Ready t := (admits_iff.1 h.admits).1

/-- An answer leaves as much room as the record that it answers. -/
lemma room_eq (h : Answers s r data t f g) : g.room t = f.room t := by
  cases t with
  | udp => rfl
  | tcp =>
    have htcp : g.get TcpHeader transportOffset = tcp (answerTo s r data f.bytes .tcp) := by
      refine h.holds.get_eq ?_
      rw [answerTo, length_packet, answerPayload, length_summedSegment, ← Nat.add_assoc]
      exact Nat.le_add_right _ _
    have hoffset : g.stagedOffset = f.stagedOffset := by
      rw [stagedOffset, htcp, dataOffset_answerTo]
      rfl
    rw [room, room, hoffset]

/-- It is the answer that is answered next, wherever it stands. -/
lemma answersTo_eq (h : Answers s r data t f g) (hf : f.Admits data t) (payloads : List Bytes) :
    answersTo s r t payloads g.bytes =
      answersTo s r t payloads (answerTo s r data f.bytes t) := by
  cases payloads with
  | nil => rfl
  | cons first rest =>
    rw [answersTo, answersTo, answerTo_congr h.holds hf.answerable.answerTo length_le_answerTo]

end Answers

end Frame

/-! ### Runs -/

namespace Host

variable {δ : Type} [Device δ] {t : Transport}

/-- Answers the record in the buffer with each of these payloads in turn, and gives what comes of
each call. -/
def answerEach (t : Transport) (h : Host δ) : List Bytes → List (Except NetError Unit) × Host δ
  | [] => ([], h)
  | data :: rest =>
    let first := answer data t h
    let later := first.2.answerEach t rest
    (first.1 :: later.1, later.2)

/-- What there is room for is all there is, if there is room for everything. -/
lemma filter_fits {payloads : List Bytes} {n : Nat} (h : ∀ data ∈ payloads, data.length ≤ n) :
    payloads.filter (fun data => decide (data.length ≤ n)) = payloads := by
  simpa using h

/-- A run of sends from this host has handed these frames to its device, with these outcomes. -/
structure AnswersEach (h : Host δ) (t : Transport) (payloads : List Bytes)
    (run : List (Except NetError Unit) × Host δ) (sent : List (Bytes × Except String Unit)) :
    Prop where
  trace : Device.Trace h.device (sent.map fun x => .send x.1 x.2) run.2.device
  frames : sent.map (·.1) = answersTo h.settings h.handlers t
    (payloads.filter fun data => decide (data.length ≤ h.frame.room t)) h.frame.bytes
  /-- What there is room for is up to the device. -/
  results : (∀ data ∈ payloads, data.length ≤ h.frame.room t) →
    run.1 = sent.map fun x => x.2.mapError .device
  /-- What there is no room for is refused. -/
  fits : (∀ result ∈ run.1, result = .ok ()) → ∀ data ∈ payloads, data.length ≤ h.frame.room t

namespace AnswersEach

variable {h : Host δ} {data : Bytes} {rest : List Bytes}
  {run : List (Except NetError Unit) × Host δ} {sent : List (Bytes × Except String Unit)}

lemma getElem?_frames {frames : List Bytes} {k : Nat} {frame : Bytes}
    {outcome : Except String Unit} (hframes : sent.map (·.1) = frames)
    (hsent : sent[k]? = some (frame, outcome)) : frames[k]? = some frame := by
  rw [← hframes, List.getElem?_map, hsent]
  rfl

lemma nil (h : Host δ) (t : Transport) : h.AnswersEach t [] ([], h) [] where
  trace := .nil _
  frames := rfl
  results _ := rfl
  fits _ _ hdata := absurd hdata List.not_mem_nil

lemma refuse {e : NetError} (hlen : h.frame.room t < data.length)
    (hrun : h.AnswersEach t rest run sent) :
    h.AnswersEach t (data :: rest) (.error e :: run.1, run.2) sent where
  trace := hrun.trace
  frames := by
    rw [List.filter_cons_of_neg (by simpa using hlen)]
    exact hrun.frames
  results hall := absurd (hall data List.mem_cons_self) (Nat.not_le.2 hlen)
  fits hok := by
    have hfirst := hok _ List.mem_cons_self
    cases hfirst

/-- The frame is handed over, and the run goes on from the answer in the buffer. -/
lemma accept {g : Frame} (hf : h.frame.Admits data t)
    (hg : Frame.Answers h.settings h.handlers data t h.frame g)
    (hrun : { h with
      frame := g
      device := (Device.send (answerTo h.settings h.handlers data h.frame.bytes t)
        h.device).2 }.AnswersEach t rest run sent) :
    h.AnswersEach t (data :: rest)
      ((Device.send (answerTo h.settings h.handlers data h.frame.bytes t) h.device).1.mapError
        .device :: run.1, run.2)
      ((answerTo h.settings h.handlers data h.frame.bytes t,
        (Device.send (answerTo h.settings h.handlers data h.frame.bytes t) h.device).1) ::
          sent) := by
  have hlen : data.length ≤ h.frame.room t := (Frame.admits_iff.1 hf).2
  obtain ⟨htrace, hframes, hresults, hfits⟩ := hrun
  simp only [hg.room_eq] at hframes hresults hfits
  refine ⟨.send _ htrace, ?_, fun hall => ?_, fun hok => ?_⟩
  · rw [List.map_cons, hframes, hg.answersTo_eq hf,
      List.filter_cons_of_pos (by simpa using hlen), answersTo]
  · rw [List.map_cons, hresults fun data' hmem => hall data' (List.mem_cons_of_mem _ hmem)]
  · rw [List.forall_mem_cons] at hok ⊢
    exact ⟨hlen, hfits hok.2⟩

end AnswersEach

/-- Each send finds the buffer as the one before has left it. -/
lemma exists_answersEach (h : Host δ) (hready : h.frame.Ready t) (payloads : List Bytes) :
    ∃ sent, h.AnswersEach t payloads (h.answerEach t payloads) sent := by
  induction payloads generalizing h with
  | nil => exact ⟨[], .nil h t⟩
  | cons data rest ih =>
    rw [answerEach]
    rcases Nat.lt_or_ge (h.frame.room t) data.length with hlen | hlen
    · have hfirst : answer data t h =
          (.error (.payloadTooLarge data.length (h.frame.room t)), h) := by
        rw [answer_eq, Frame.prepare_of_lt hready hlen]
        rfl
      rw [hfirst]
      obtain ⟨sent, hrun⟩ := ih h hready
      exact ⟨sent, hrun.refuse hlen⟩
    · have hadmits : h.frame.Admits data t := Frame.admits_iff.2 ⟨hready, hlen⟩
      obtain ⟨g, hg⟩ := Frame.exists_answers h.settings h.handlers hadmits
      have hfirst : answer data t h =
          ((Device.send (answerTo h.settings h.handlers data h.frame.bytes t) h.device).1.mapError
            .device,
            { h with
              frame := g
              device := (Device.send (answerTo h.settings h.handlers data h.frame.bytes t)
                h.device).2 }) := by
        rw [answer_eq, finish_of_outgoing hg.outgoing?, hg.prepare_eq]
      rw [hfirst]
      obtain ⟨sent, hrun⟩ := ih
        { h with
          frame := g
          device := (Device.send (answerTo h.settings h.handlers data h.frame.bytes t)
            h.device).2 } hg.ready
      exact ⟨_, hrun.accept hadmits hg⟩

end Host

/-! ### Datagrams -/

namespace Frame

variable {s : Settings} {r : Registry} {turn : Nat} {b : Bytes} {f g : Frame}

lemma stages_of_agreeOn {protocol : UInt8} (hf : f.Holds b) (h : Accepted s b)
    (hprotocol : (ip b).protocol = protocol) (hg : AgreeOn 0 transportOffset g f) :
    g.Stages protocol := by
  rw [← holdsPacket_iff, ← hprotocol]
  exact holdsPacket_of_agreeOn hf h hg

/-- A datagram that is not answered is kept with its headers. -/
lemma agreeOn_unanswered (hf : f.Holds b) (h : CarriesDatagram s b)
    (hquiet : (f.react s r turn b.length).outgoing? = none) :
    AgreeOn 0 udpDataOffset (f.react s r turn b.length).frame f := by
  have hheader := h.header
  have hended : AgreeOn 0 udpDataOffset (f.ended b) f :=
    agreeOn_ended (show 42 ≤ 14 + packetLength b by omega)
  have hkept : AgreeOn 0 udpDataOffset (f.unanswered s b) f := by
    rw [unanswered, if_neg h.not_asksEcho, kept_of_datagram h]
    exact (agreeOn_write (.inr (Nat.le_add_right _ _))).trans hended
  exact (agreeOn_of_quiet hf hquiet fun _ hc => hc.le_start).trans hkept

/-- So it can be answered as it was received. -/
lemma ready_of_unanswered (hf : f.Holds b) (h : CarriesDatagram s b)
    (hquiet : (f.react s r turn b.length).outgoing? = none) :
    (f.react s r turn b.length).frame.Ready .udp ∧
      ip (f.react s r turn b.length).frame.bytes = ip b ∧
      endpoints (f.react s r turn b.length).frame.bytes = endpoints b := by
  have hagree := agreeOn_unanswered hf h hquiet
  have houter := hagree.mono (Nat.le_refl 0) (show 34 ≤ 42 by omega)
  have hip : ip (f.react s r turn b.length).frame.bytes = ip b :=
    get_ipv4_accepted hf h.toAccepted houter
  have hlen : 42 ≤ b.length := by
    have hend : 14 + packetLength b ≤ b.length := h.toAccepted.end_le
    have hheader := h.header
    omega
  have hudp : udp (f.react s r turn b.length).frame.bytes = udp b :=
    (hagree.get_udp (Nat.le_refl 42)).trans (hf.get_eq hlen)
  refine ⟨stages_of_agreeOn hf h.toAccepted h.protocol houter, hip, ?_⟩
  rw [endpoints, hip, hudp, endpoints]

end Frame

/-- **The frames sent over a datagram go back and forth between its ends**, whatever is sent and
however often. Each carries its own data and nothing of what was sent before. -/
theorem datagram_answers_alternate {δ : Type} [Device δ] (h : Host δ) {b : Bytes}
    (hb : b.length ≤ frameSize) (hdatagram : CarriesDatagram h.settings b)
    (hquiet : (h.reaction b).outgoing? = none) {payloads : List Bytes}
    (hfit : ∀ data ∈ payloads, data.length ≤ 1471) :
    let run := ((h.holding b).dispatch b.length).answerEach .udp payloads
    ∃ sent : List (Bytes × Except String Unit),
      Device.Trace h.device (sent.map fun x => .send x.1 x.2) run.2.device ∧
        run.1 = sent.map (fun x => x.2.mapError .device) ∧
        sent.length = payloads.length ∧
        ∀ (k : Nat) (frame : Bytes) (outcome : Except String Unit),
          sent[k]? = some (frame, outcome) → ∃ data, payloads[k]? = some data ∧
            SendsDatagram h.settings (ip b).id
              (if Even k then (endpoints b).reversed else endpoints b) data frame := by
  dsimp only
  have hf : (h.frame.write 0 b).Holds b := Frame.holds_write h.frame hb
  obtain ⟨hready, hip, hends⟩ := Frame.ready_of_unanswered hf hdatagram hquiet
  obtain ⟨log, hdispatch⟩ := h.dispatch_eq b
  rw [hquiet] at hdispatch
  rw [hdispatch]
  obtain ⟨sent, htrace, hframes, hresults, -⟩ := Host.exists_answersEach
    { h with
      frame := (h.reaction b).frame
      device := Device.handed h.device none
      deliveries := h.deliveries ++ (h.reaction b).delivery.toList
      log := log } hready payloads
  change sent.map (·.1) =
    answersTo _ _ _ (payloads.filter fun data => decide (data.length ≤ 1471)) _ at hframes
  rw [Host.filter_fits hfit] at hframes
  refine ⟨sent, htrace, hresults hfit, ?_, fun k frame outcome hsent => ?_⟩
  · rw [← sent.length_map (·.1), hframes, length_answersTo]
  · obtain ⟨data, base, hdata, rfl, hbase, hid⟩ :=
      exists_of_answersTo (Host.AnswersEach.getElem?_frames hframes hsent)
    have hsends := sendsDatagram_answerTo h.settings h.handlers base
      (hfit data (List.mem_of_getElem? hdata))
    rw [hid, hbase, Endpoints.iterate_answered, apply_ite Endpoints.reversed] at hsends
    rw [← hip, ← hends]
    exact ⟨data, hdata, hsends⟩

/-- A new host that nothing is registered with. -/
def Host.unattended : Host MemoryDevice := Host.new {} {}

/-- An odd number of bytes and then an even one, over a datagram that nobody is there to answer. -/
theorem datagram_answers_alternate_oddDatagram :
    oddDatagram.length ≤ frameSize ∧ CarriesDatagram {} oddDatagram ∧
      (Host.unattended.reaction oddDatagram).outgoing? = none ∧
      (∀ data ∈ ([[1, 2, 3], [4, 5]] : List Bytes), data.length ≤ 1471) ∧
      ∃ sent : List (Bytes × Except String Unit),
        Device.Trace Host.unattended.device (sent.map fun x => .send x.1 x.2)
          (((Host.unattended.holding oddDatagram).dispatch oddDatagram.length).answerEach .udp
            [[1, 2, 3], [4, 5]]).2.device ∧ sent.length = 2 := by
  have hlength : oddDatagram.length ≤ frameSize := by decide
  have hdatagram : CarriesDatagram Host.unattended.settings oddDatagram := by decide
  have hquiet : (Host.unattended.reaction oddDatagram).outgoing? = none := by
    rw [Host.reaction, Frame.react_of_carriesDatagram (Frame.holds_write _ hlength) hdatagram]
    rfl
  have hfit : ∀ data ∈ ([[1, 2, 3], [4, 5]] : List Bytes), data.length ≤ 1471 := by decide
  obtain ⟨sent, htrace, -, hcount, -⟩ :=
    datagram_answers_alternate Host.unattended hlength hdatagram hquiet hfit
  exact ⟨hlength, hdatagram, hquiet, hfit, sent, htrace, hcount⟩

/-! ### Segments -/

namespace Frame

variable {s : Settings} {r : Registry} {turn : Nat} {b : Bytes} {f g : Frame}

/-- A segment that is kept with its ports exchanged, ready to be answered. -/
structure Exchanged (b : Bytes) (g : Frame) : Prop where
  ready : g.Ready .tcp
  endpoints_eq : endpoints g.bytes = (endpoints b).reversed.crossed

/-- What a reaction has come to over the record in this buffer: nothing so far, or an answer. -/
inductive Reacts (s : Settings) (r : Registry) (t : Transport) (g : Frame) (x : Reaction) :
    Option Bytes → Prop
  | silent (frame : x.frame = g) (out : x.outgoing? = none) : Reacts s r t g x none
  | answer (data : Bytes) (admits : g.Admits data t)
      (frame : x.frame = (g.prepare s r data t).frame)
      (out : x.outgoing? = (g.prepare s r data t).outgoing?) : Reacts s r t g x (some data)

/-- A header with the two ports exchanged is all that it takes. -/
lemma Exchanged.of_header {header : TcpHeader} (hf : f.Holds b) (h : CarriesSegment s b)
    (hip : AgreeOn 0 transportOffset g f)
    (htcp : g.get TcpHeader transportOffset = header) (hsrc : header.srcPort = (tcp b).dstPort)
    (hdst : header.dstPort = (tcp b).srcPort) (hoff : 20 ≤ header.dataOffset) :
    g.Exchanged b where
  ready := by
    refine ⟨stages_of_agreeOn hf h.toAccepted h.protocol hip, ?_⟩
    rw [stagedOffset, htcp]
    exact hoff
  endpoints_eq := by
    have hheader : tcp g.bytes = header := htcp
    have haddresses : ip g.bytes = ip b := get_ipv4_accepted hf h.toAccepted hip
    rw [endpoints_eq_tcp, hheader, haddresses, hsrc, hdst]
    rfl

/-- The data in its place is the data to send. -/
lemma prepare_slice (hready : g.Ready .tcp) {len : Nat} (hlen : len ≤ g.room .tcp) :
    ∃ data, g.Admits data .tcp ∧ g.prepare s r data .tcp = g.answerTcp s r len := by
  have hle := g.stagedOffset_le
  replace hlen : len ≤ 1479 - g.stagedOffset := hlen
  have hstop : transportOffset + g.stagedOffset + len ≤ frameSize := by
    show 34 + g.stagedOffset + len ≤ 1536
    omega
  have hlength : (g.slice (transportOffset + g.stagedOffset)
      (transportOffset + g.stagedOffset + len)).length = len := by
    rw [length_slice, Nat.add_sub_cancel_left]
    omega
  have hadmits : g.Admits (g.slice (transportOffset + g.stagedOffset)
      (transportOffset + g.stagedOffset + len)) .tcp := by
    refine admits_iff.2 ⟨hready, ?_⟩
    rw [hlength]
    exact hlen
  refine ⟨_, hadmits, ?_⟩
  rw [prepare, sendTcp_eq_ite, holdsPacket_iff.2 hready.1, if_neg (by decide),
    if_neg (Nat.not_lt.2 hready.2), hlength, if_neg (Nat.not_lt.2 hlen), write_slice _ hstop]

/-- A control segment is an answer without data, to a segment whose header is short already. -/
lemma finishTcp_eq_answerTcp (hoff : (g.get TcpHeader transportOffset).dataOffset = 20) :
    g.finishTcp s 20 0 = g.answerTcp s r 0 := by
  have hkept : g.segment r 0 = g := by
    rw [segment, TcpHeader.advanceAck_zero, ite_self]
    exact g.put_get TcpHeader transportOffset
  rw [answerTcp_of_le s r g (Nat.le_of_eq hoff.symm), hkept, hoff]
  rfl

/-- Whatever is sent in reaction to a segment answers the segment with its ports exchanged. -/
lemma exists_reacts_segment (hf : f.Holds b) (h : CarriesSegment s b) :
    ∃ g own, Exchanged b g ∧ Reacts s r .tcp g (f.react s r turn b.length) own := by
  cases hpsh : (tcp b).has TcpFlag.psh with
  | false =>
    have hcontrolling : (f.controlling b).get TcpHeader transportOffset = (tcp b).controlReply :=
      get_put_tcp _ _
    have hoff : ((f.controlling b).get TcpHeader transportOffset).dataOffset = 20 := by
      rw [hcontrolling, (tcp b).dataOffset_controlReply]
    have hexchanged : (f.controlling b).Exchanged b :=
      .of_header hf h (agreeOn_controlling h.toAccepted) hcontrolling
        (by rw [TcpHeader.controlReply_eq]; rfl) (by rw [TcpHeader.controlReply_eq]; rfl)
        (Nat.le_of_eq (tcp b).dataOffset_controlReply.symm)
    obtain ⟨data, hadmits, hprepare⟩ := prepare_slice (s := s) (r := r) hexchanged.ready
      (Nat.zero_le _)
    refine ⟨_, some data, hexchanged, .answer data hadmits ?_ ?_⟩
    · rw [hprepare, ← finishTcp_eq_answerTcp hoff, react_of_carriesSegment hf h, if_pos hpsh]
      rfl
    · rw [hprepare, ← finishTcp_eq_answerTcp hoff, react_of_carriesSegment hf h, if_pos hpsh]
      rfl
  | true =>
    have hoffering : (f.offeringSegment b).get TcpHeader transportOffset = (tcp b).swapForReply :=
      get_put_tcp _ _
    have hoff : 20 ≤ (tcp b).swapForReply.dataOffset := by
      rw [TcpHeader.dataOffset_swapForReply]
      exact h.offset_ge
    cases hhandler : r.tcpHandler? (tcp b).dstPort with
    | none =>
      refine ⟨f.offeringSegment b, none, .of_header hf h (agreeOn_offeringSegment h.toAccepted)
        hoffering rfl rfl hoff, ?_⟩
      rw [react_of_carriesSegment hf h, if_neg (by simp [hpsh]), hhandler]
      exact .silent rfl rfl
    | some handler =>
      have hturned : ((f.offeringSegment b).turned (segmentCall b handler) turn).get TcpHeader
          transportOffset = (tcp b).swapForReply := by
        rw [← hoffering]
        exact (agreeOn_turned _ _ _ (Nat.add_le_add_left h.offset_ge _)).get_tcp (Nat.le_refl 54)
      have hexchanged : ((f.offeringSegment b).turned (segmentCall b handler) turn).Exchanged b :=
        .of_header hf h (agreeOn_turned_segment h.toAccepted) hturned rfl rfl hoff
      rw [react_of_segment hf h hpsh hhandler]
      cases hreply : (((f.offeringSegment b).exchange (segmentCall b handler)).after turn
          handler).reply with
      | none =>
        obtain ⟨hframe, hout⟩ := called_of_none .tcpData (fun g len => g.answerTcp s r len) hreply
        exact ⟨_, none, hexchanged, .silent hframe hout⟩
      | some len =>
        obtain ⟨hframe, hout⟩ := called_of_some .tcpData (fun g len => g.answerTcp s r len) hreply
        have hlt : 34 + (tcp b).dataOffset + len < 1514 := reply_segment_lt hreply
        have hroom : len ≤ ((f.offeringSegment b).turned (segmentCall b handler) turn).room
            .tcp := by
          rw [room, stagedOffset, hturned, TcpHeader.dataOffset_swapForReply]
          omega
        obtain ⟨data, hadmits, hprepare⟩ := prepare_slice (s := s) (r := r) hexchanged.ready hroom
        rw [← hprepare] at hframe hout
        exact ⟨_, some data, hexchanged, .answer data hadmits hframe hout⟩

end Frame

namespace Host

variable {δ : Type} [Device δ] {b : Bytes} {g : Frame} {own : Option Bytes}

/-- What a host has sent in reaction to a segment is the first frame of the run. -/
lemma exists_answersEach_dispatch (h : Host δ) (hg : g.Exchanged b)
    (hreacts : Frame.Reacts h.settings h.handlers .tcp g (h.reaction b) own)
    (payloads : List Bytes) :
    let run := ((h.holding b).dispatch b.length).answerEach .tcp payloads
    ∃ (sent : List (Bytes × Except String Unit)) (answered : List Bytes),
      Device.Trace h.device (sent.map fun x => .send x.1 x.2) run.2.device ∧
        sent.map (·.1) = answersTo h.settings h.handlers .tcp answered g.bytes ∧
        ((∀ result ∈ run.1, result = .ok ()) →
          answered.length = (h.reaction b).outgoing?.toList.length + payloads.length) := by
  dsimp only
  obtain ⟨log, hdispatch⟩ := h.dispatch_eq b
  cases hreacts with
  | silent hframe hout =>
    rw [hframe, hout] at hdispatch
    rw [hdispatch]
    obtain ⟨sent, htrace, hframes, -, hfits⟩ := exists_answersEach
      { h with
        frame := g
        device := Device.handed h.device none
        deliveries := h.deliveries ++ (h.reaction b).delivery.toList
        log := log } hg.ready payloads
    refine ⟨sent, _, htrace, hframes, fun hok => ?_⟩
    rw [filter_fits (hfits hok), hout]
    exact (Nat.zero_add _).symm
  | answer data hadmits hframe hout =>
    obtain ⟨g', hg'⟩ := Frame.exists_answers h.settings h.handlers hadmits
    rw [hg'.prepare_eq] at hframe
    rw [hg'.outgoing?] at hout
    rw [hframe, hout] at hdispatch
    rw [hdispatch]
    obtain ⟨sent, htrace, hframes, -, hfits⟩ := exists_answersEach
      { h with
        frame := g'
        device := Device.handed h.device
          (some (answerTo h.settings h.handlers data g.bytes .tcp))
        deliveries := h.deliveries ++ (h.reaction b).delivery.toList
        log := log } hg'.ready payloads
    refine ⟨(answerTo h.settings h.handlers data g.bytes .tcp, _) :: sent,
      data :: payloads.filter fun later => decide (later.length ≤ g'.room .tcp),
      .send _ htrace, ?_, fun hok => ?_⟩
    · rw [List.map_cons, hframes, hg'.answersTo_eq hadmits, answersTo]
    · rw [filter_fits (hfits hok), hout, List.length_cons, Nat.add_comm]
      rfl

end Host

/-- **The frames sent over a segment go back, but every other one from the wrong address**: whether
the first is the reaction to the segment or is sent afterwards, it goes back to the peer's port, and
each later one has the ports of the first and the addresses of the one before in exchanged places.
So every other frame does not join the two ends at all, unless they have the same address or
port. -/
theorem segment_answers_cross {δ : Type} [Device δ] (h : Host δ) {b : Bytes}
    (hb : b.length ≤ frameSize) (hsegment : CarriesSegment h.settings b) (payloads : List Bytes) :
    let run := ((h.holding b).dispatch b.length).answerEach .tcp payloads
    let e := endpoints b
    ∃ sent : List (Bytes × Except String Unit),
      Device.Trace h.device (sent.map fun x => .send x.1 x.2) run.2.device ∧
        ((∀ result ∈ run.1, result = .ok ()) →
          sent.length = (h.reaction b).outgoing?.toList.length + payloads.length) ∧
        ∀ (k : Nat) (frame : Bytes) (outcome : Except String Unit),
          sent[k]? = some (frame, outcome) →
            endpoints frame = (if Even k then e.reversed else e.reversed.crossed) ∧
              (e.Joins (endpoints frame) ↔ Even k ∨ e.src = e.dst ∨ e.srcPort = e.dstPort) := by
  dsimp only
  have hf : (h.frame.write 0 b).Holds b := Frame.holds_write h.frame hb
  obtain ⟨g, own, hexchanged, hreacts⟩ : ∃ g own, Frame.Exchanged b g ∧
      Frame.Reacts h.settings h.handlers .tcp g (h.reaction b) own :=
    Frame.exists_reacts_segment hf hsegment
  obtain ⟨sent, answered, htrace, hframes, hcount⟩ :=
    h.exists_answersEach_dispatch hexchanged hreacts payloads
  refine ⟨sent, htrace, fun hok => ?_, fun k frame outcome hsent => ?_⟩
  · rw [← hcount hok, ← sent.length_map (·.1), hframes, length_answersTo]
  · have hframe : (answersTo h.settings h.handlers .tcp answered g.bytes)[k]? = some frame :=
      Host.AnswersEach.getElem?_frames hframes hsent
    have hends : endpoints frame =
        if Even k then (endpoints b).reversed else (endpoints b).reversed.crossed := by
      rw [endpoints_of_answersTo hframe, hexchanged.endpoints_eq]
      exact Endpoints.iterate_answered .tcp (endpoints b).reversed k
    refine ⟨hends, ?_⟩
    rw [hends]
    split
    next heven => exact iff_of_true (.inr rfl) (.inl heven)
    next hodd => rw [Endpoints.joins_reversed_crossed_iff, or_iff_right hodd]

/-- A segment that nobody is there to answer is answered twice. -/
theorem segment_answers_cross_dataSegment :
    dataSegment.length ≤ frameSize ∧ CarriesSegment {} dataSegment ∧
      ∃ sent : List (Bytes × Except String Unit),
        Device.Trace Host.unattended.device (sent.map fun x => .send x.1 x.2)
            (((Host.unattended.holding dataSegment).dispatch dataSegment.length).answerEach .tcp
              [[0x61, 0x2e], [0x62, 0x2e]]).2.device ∧
          sent.length = 2 ∧
          ∀ frame outcome, sent[1]? = some (frame, outcome) →
            ¬ (endpoints dataSegment).Joins (endpoints frame) := by
  have hlength : dataSegment.length ≤ frameSize := by decide
  have hsegment : CarriesSegment Host.unattended.settings dataSegment := by decide
  have hok : ∀ result ∈ (((Host.unattended.holding dataSegment).dispatch
      dataSegment.length).answerEach .tcp [[0x61, 0x2e], [0x62, 0x2e]]).1, result = .ok () := by
    decide +kernel
  have hquiet : (Host.unattended.reaction dataSegment).outgoing? = none := by
    decide +kernel
  obtain ⟨sent, htrace, hcount, hends⟩ :=
    segment_answers_cross Host.unattended hlength hsegment [[0x61, 0x2e], [0x62, 0x2e]]
  refine ⟨hlength, hsegment, sent, htrace, ?_, fun frame outcome hsent => ?_⟩
  · rw [hcount hok, hquiet]
    rfl
  · rw [(hends 1 frame outcome hsent).2]
    decide

/-- **Two answers to one segment need not both go back**: the second one of these has the peer's own
address as its source. -/
theorem segment_answers_apart :
    let run := ((Host.unattended.holding dataSegment).dispatch dataSegment.length).answerEach .tcp
      [[0x61, 0x2e], [0x62, 0x2e]]
    CarriesSegment {} dataSegment ∧
      endpoints dataSegment = ⟨⟨10, 0, 0, 2⟩, 4000, ⟨10, 0, 0, 1⟩, 7⟩ ∧
      run.1 = [.ok (), .ok ()] ∧
      run.2.device.sent.map endpoints =
        [⟨⟨10, 0, 0, 1⟩, 7, ⟨10, 0, 0, 2⟩, 4000⟩, ⟨⟨10, 0, 0, 2⟩, 7, ⟨10, 0, 0, 1⟩, 4000⟩] := by
  refine ⟨by decide, by decide, ?_, ?_⟩
  · decide +kernel
  · decide +kernel

end PacketHost
