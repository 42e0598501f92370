import PacketHost.Proofs.Inquiring
import PacketHost.Proofs.Outgoing

/-!
What is looked at before data is sent.

A send reads the headers of the record it answers, and the length of the data, and is refused for
what it finds there before it has changed anything. Once it is under way only the device can fail.
The layers below check sizes again, but whatever has passed the first check leaves room for all
headers and a byte of padding.
-/

namespace PacketHost

open Bytes

namespace Frame

variable (f : Frame) (len : Nat)

/-- The buffer stands ready to be answered: in it is an IPv4 packet of this protocol, its header
without options. -/
def Stages (protocol : UInt8) : Prop :=
  word16At f.bytes 12 = 0x0800 ∧ f.byte 14 = 0x45 ∧ f.byte 23 = protocol

/-- Where the data starts in the segment that is to be answered, by its own account. -/
def stagedOffset : Nat := (f.get TcpHeader transportOffset).dataOffset

/-- What is reported of data that is not sent as a datagram. -/
inductive UdpRefusal : NetError → Prop
  | mismatch (h : ¬ f.Stages IpProtocol.udp) : UdpRefusal (.protocolMismatch .udp)
  | tooLarge (h : f.Stages IpProtocol.udp) (hlen : 1471 < len) :
    UdpRefusal (.payloadTooLarge len 1471)

/-- What is reported of data that is not sent in a segment. -/
inductive TcpRefusal : NetError → Prop
  | mismatch (h : ¬ f.Stages IpProtocol.tcp) : TcpRefusal (.protocolMismatch .tcp)
  | badOffset (h : f.Stages IpProtocol.tcp) (hoff : f.stagedOffset < 20) :
    TcpRefusal (.sizeMismatch f.stagedOffset 20)
  | tooLarge (h : f.Stages IpProtocol.tcp) (hoff : 20 ≤ f.stagedOffset)
    (hlen : 1479 - f.stagedOffset < len) :
    TcpRefusal (.payloadTooLarge len (1479 - f.stagedOffset))

variable {f len} {s : Settings} {r : Registry} {data : Bytes} {e : NetError}

lemma holdsPacket_iff {protocol : UInt8} : f.holdsPacket protocol = true ↔ f.Stages protocol := by
  rw [holdsPacket, Bool.and_eq_true, Bool.and_eq_true, and_assoc, beq_iff_eq, beq_iff_eq]
  exact and_congr_right' (and_congr_left' beq_iff_eq)

lemma holdsPacket_eq_false {protocol : UInt8} (h : ¬ f.Stages protocol) :
    f.holdsPacket protocol = false :=
  Bool.eq_false_iff.2 (mt holdsPacket_iff.1 h)

/-! ### Datagrams -/

lemma udpRefusal_or (f : Frame) (len : Nat) :
    (∃ e, f.UdpRefusal len e) ∨ f.Stages IpProtocol.udp ∧ len ≤ 1471 := by
  by_cases hstages : f.Stages IpProtocol.udp
  · rcases Nat.lt_or_ge 1471 len with hlen | hlen
    · exact .inl ⟨_, .tooLarge hstages hlen⟩
    · exact .inr ⟨hstages, hlen⟩
  · exact .inl ⟨_, .mismatch hstages⟩

lemma sendUdp_of_refusal (h : f.UdpRefusal data.length e) : f.sendUdp s data = ⟨f, .error e⟩ := by
  cases h with
  | mismatch h => rw [sendUdp, if_pos (holdsPacket_eq_false h)]
  | tooLarge h hlen =>
    rw [sendUdp, holdsPacket_iff.2 h, if_neg (by decide)]
    exact if_pos hlen

lemma sendUdp_of_stages (h : f.Stages IpProtocol.udp) (hlen : data.length ≤ 1471) :
    f.sendUdp s data =
      ⟨((f.write udpDataOffset data).datagram s data.length).addressed s IpProtocol.udp
          (8 + evenLength data.length),
        .ok (transportOffset + (8 + evenLength data.length))⟩ := by
  rw [sendUdp, holdsPacket_iff.2 h, if_neg (by decide), ← answerUdp_of_le s _ hlen]
  exact if_neg (Nat.not_lt.2 hlen)

/-! ### Segments -/

lemma tcpRefusal_or (f : Frame) (len : Nat) :
    (∃ e, f.TcpRefusal len e) ∨
      f.Stages IpProtocol.tcp ∧ 20 ≤ f.stagedOffset ∧ len ≤ 1479 - f.stagedOffset := by
  by_cases hstages : f.Stages IpProtocol.tcp
  · rcases Nat.lt_or_ge f.stagedOffset 20 with hoff | hoff
    · exact .inl ⟨_, .badOffset hstages hoff⟩
    rcases Nat.lt_or_ge (1479 - f.stagedOffset) len with hlen | hlen
    · exact .inl ⟨_, .tooLarge hstages hoff hlen⟩
    · exact .inr ⟨hstages, hoff, hlen⟩
  · exact .inl ⟨_, .mismatch hstages⟩

lemma capacity_staged (f : Frame) :
    maxFrameLength - (transportOffset + f.stagedOffset + 1) = 1479 - f.stagedOffset := by
  show 1514 - (34 + f.stagedOffset + 1) = 1479 - f.stagedOffset
  omega

lemma stagedOffset_le (f : Frame) : f.stagedOffset ≤ 60 := TcpHeader.dataOffset_le _

lemma sendTcp_eq_ite (s : Settings) (r : Registry) (f : Frame) (data : Bytes) :
    f.sendTcp s r data =
      if f.holdsPacket IpProtocol.tcp = false then ⟨f, .error (.protocolMismatch .tcp)⟩
      else if f.stagedOffset < 20 then ⟨f, .error (.sizeMismatch f.stagedOffset 20)⟩
      else if 1479 - f.stagedOffset < data.length then
        ⟨f, .error (.payloadTooLarge data.length (1479 - f.stagedOffset))⟩
      else (f.write (transportOffset + f.stagedOffset) data).answerTcp s r data.length := by
  rw [← capacity_staged]
  rfl

lemma sendTcp_of_refusal (h : f.TcpRefusal data.length e) :
    f.sendTcp s r data = ⟨f, .error e⟩ := by
  rw [sendTcp_eq_ite]
  cases h with
  | mismatch h => rw [if_pos (holdsPacket_eq_false h)]
  | badOffset h hoff => rw [holdsPacket_iff.2 h, if_neg (by decide), if_pos hoff]
  | tooLarge h hoff hlen =>
    rw [holdsPacket_iff.2 h, if_neg (by decide), if_neg (Nat.not_lt.2 hoff), if_pos hlen]

/-- The data stands behind the header, which says so still. -/
lemma dataOffset_write_staged (hoff : 20 ≤ f.stagedOffset) (data : Bytes) :
    ((f.write (transportOffset + f.stagedOffset) data).get TcpHeader transportOffset).dataOffset =
      f.stagedOffset := by
  have hfront : AgreeOn 0 (transportOffset + 20)
      (f.write (transportOffset + f.stagedOffset) data) f :=
    agreeOn_write (.inr (Nat.add_le_add_left hoff _))
  rw [hfront.get_tcp (Nat.le_refl 54), stagedOffset]

lemma sendTcp_of_stages (h : f.Stages IpProtocol.tcp) (hoff : 20 ≤ f.stagedOffset)
    (hlen : data.length ≤ 1479 - f.stagedOffset) :
    f.sendTcp s r data =
      ⟨(((f.write (transportOffset + f.stagedOffset) data).segment r data.length).summed
          (f.stagedOffset + evenLength data.length)).addressed s IpProtocol.tcp
            (f.stagedOffset + evenLength data.length),
        .ok (transportOffset + (f.stagedOffset + evenLength data.length))⟩ := by
  have hle := f.stagedOffset_le
  have hroom : 34 + f.stagedOffset + data.length < 1514 := by omega
  rw [sendTcp_eq_ite, holdsPacket_iff.2 h, if_neg (by decide), if_neg (Nat.not_lt.2 hoff),
    if_neg (Nat.not_lt.2 hlen)]
  exact answerTcp_of_lt s r _ (dataOffset_write_staged hoff data) hoff hroom

end Frame

namespace Host

variable {δ : Type} [Device δ]

/-- What has been done is to have the device send this frame. -/
def SendsOnce (h : Host δ) (frame : Bytes) (done : Except NetError Unit × Host δ) : Prop :=
  done.1 = (Device.send frame h.device).1.mapError .device ∧
    ∃ g : Frame, done.2 = { h with frame := g, device := (Device.send frame h.device).2 }

/-- A send is either refused, with nothing done, or hands one frame of this length to the device,
whose error is the only one there can be then. -/
structure ValidatesFirst (h : Host δ) (refusal : NetError → Prop) (len : Nat)
    (done : Except NetError Unit × Host δ) : Prop where
  error_iff : ∀ e, (∀ reason, e ≠ .device reason) → (done.1 = .error e ↔ refusal e)
  unchanged : ∀ e, refusal e → done.2 = h
  sends : (∀ e, ¬ refusal e) →
    len ≤ maxFrameLength ∧ ∃ frame : Bytes, frame.length = len ∧ h.SendsOnce frame done

variable {h : Host δ} {refusal : NetError → Prop} {p : Prepared} {len : Nat}

lemma sendsOnce_finish {frame : Bytes} (hp : p.outgoing? = some frame) :
    h.SendsOnce frame (finish p h) := by
  rw [finish_of_outgoing hp]
  exact ⟨rfl, p.frame, rfl⟩

/-- Of a send that is under way only the device can fail. -/
lemma SendsOnce.of_error {frame : Bytes} {done : Except NetError Unit × Host δ}
    (hdone : h.SendsOnce frame done) {e : NetError} (herror : done.1 = .error e) :
    ∃ reason, e = .device reason ∧ (Device.send frame h.device).1 = .error reason := by
  rw [hdone.1] at herror
  cases hsent : (Device.send frame h.device).1 with
  | ok =>
    rw [hsent] at herror
    cases herror
  | error reason =>
    rw [hsent] at herror
    cases herror
    exact ⟨reason, rfl, rfl⟩

lemma SendsOnce.ne_error {frame : Bytes} {done : Except NetError Unit × Host δ}
    (hdone : h.SendsOnce frame done) {e : NetError} (he : ∀ reason, e ≠ .device reason) :
    done.1 ≠ .error e := by
  intro herror
  obtain ⟨reason, heq, -⟩ := hdone.of_error herror
  exact he reason heq

/-- An answer that is refused over the frame as it stands, or else is ready to be sent, is all there
is to a send. -/
lemma validatesFirst_finish (hrefused : ∀ e, refusal e → p = ⟨h.frame, .error e⟩)
    (hor : (∃ e, refusal e) ∨ (∃ g, p = ⟨g, .ok len⟩) ∧ len ≤ maxFrameLength) :
    h.ValidatesFirst refusal len (finish p h) := by
  have hunchanged : ∀ e, refusal e → finish p h = (.error e, h) := by
    intro e he
    rw [hrefused e he]
    rfl
  rcases hor with ⟨e, he⟩ | ⟨⟨g, hp⟩, hlen⟩
  · refine ⟨fun e' _ => ⟨fun herror => ?_, fun he' => ?_⟩, fun e' he' => ?_,
      fun hnone => absurd he (hnone e)⟩
    · rw [hunchanged e he] at herror
      cases herror
      exact he
    · rw [hunchanged e' he']
    · rw [hunchanged e' he']
  · have hsize : len ≤ frameSize := Nat.le_trans hlen (by decide)
    have hsends : h.SendsOnce (g.bytes.take len) (finish p h) :=
      sendsOnce_finish (by rw [hp, Prepared.outgoing?])
    refine ⟨fun e he => ⟨fun herror => absurd herror (hsends.ne_error he), fun he' => ?_⟩,
      fun e he => ?_, fun _ => ⟨hlen, _, ?_, hsends⟩⟩
    · rw [hunchanged e he']
    · rw [hunchanged e he]
    · rw [List.length_take, g.size_eq, Nat.min_eq_left hsize]

end Host

/-- **Sending data is decided before anything is done**, whatever is in the buffer. -/
theorem send_validatesFirst {δ : Type} [Device δ] (h : Host δ) (data : Bytes) :
    h.ValidatesFirst (h.frame.UdpRefusal data.length)
        (transportOffset + (8 + evenLength data.length)) (Host.udpSend data h) ∧
      h.ValidatesFirst (h.frame.TcpRefusal data.length)
        (transportOffset + (h.frame.stagedOffset + evenLength data.length))
        (Host.tcpSend data h) := by
  have heven := evenLength_le data.length
  have hmod := evenLength_mod_two data.length
  rw [Host.udpSend, Host.tcpSend, Task.get_bind, Task.get_bind]
  constructor
  · apply Host.validatesFirst_finish fun e he => Frame.sendUdp_of_refusal he
    rcases h.frame.udpRefusal_or data.length with hrefused | ⟨hstages, hlen⟩
    · exact .inl hrefused
    · refine .inr ⟨⟨_, Frame.sendUdp_of_stages hstages hlen⟩, ?_⟩
      show 34 + (8 + evenLength data.length) ≤ 1514
      omega
  · apply Host.validatesFirst_finish fun e he => Frame.sendTcp_of_refusal he
    rcases h.frame.tcpRefusal_or data.length with hrefused | ⟨hstages, hoff, hlen⟩
    · exact .inl hrefused
    · have hle := h.frame.stagedOffset_le
      refine .inr ⟨⟨_, Frame.sendTcp_of_stages hstages hoff hlen⟩, ?_⟩
      show 34 + (h.frame.stagedOffset + evenLength data.length) ≤ 1514
      omega

end PacketHost
