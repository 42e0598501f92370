import PacketHost.Proofs.Dispatch
import PacketHost.Proofs.Outgoing

/-!
Replies made out of what they answer.

A reply is the received frame with some of its bytes rewritten: the header fields that a reply has
its own values for, and the data if an application has answered. Headers are written back whole, so
it has to be seen that a field that is not meant to change is written back as it was read.
-/

namespace PacketHost

open Bytes Received

/-! ### Headers over headers -/

lemma Frame.byte_put_of_eq {α : Type} [Wire α] [LawfulWire α] (f : Frame) {off i : Nat} {a : α}
    (h : ∀ k < Wire.width α, i = off + k →
      byteAt (Wire.encode a) k = byteAt (Wire.encode (f.get α off)) k) :
    (f.put off a).byte i = f.byte i :=
  Wire.byteAt_overwrite_of_eq h

/-- Behind fronts of one length stands the same. -/
lemma Bytes.byteAt_append_congr {x y z : Bytes} {k : Nat} (hlen : x.length = y.length)
    (hk : x.length ≤ k) : byteAt (x ++ z) k = byteAt (y ++ z) k := by
  rw [byteAt_append, byteAt_append, if_neg (Nat.not_lt.2 hk), ← hlen, if_neg (Nat.not_lt.2 hk)]

/-- The type, which stands last, is that of the answered frame. -/
lemma EthernetHeader.byteAt_turnAround (h : EthernetHeader) (self : MacAddr) {k : Nat}
    (hk : 12 ≤ k) : byteAt (Wire.encode (h.turnAround self)) k = byteAt (Wire.encode h) k :=
  byteAt_append_congr (z := ofWord16 h.etherType) rfl hk

/-- What kinds of addresses an answer is about, which stands first, is what it was asked about. -/
lemma ArpPacket.byteAt_answer (p : ArpPacket) (hw : MacAddr) (ip : Ipv4Addr) {k : Nat}
    (hk : k < 6) : byteAt (Wire.encode (p.answer hw ip)) k = byteAt (Wire.encode p) k := by
  have hfront (q : ArpPacket) : byteAt (Wire.encode q) k =
      byteAt (ofWord16 q.hwType ++ (ofWord16 q.protoType ++ [q.hwLen, q.protoLen])) k := by
    have hsplit : Wire.encode q = (ofWord16 q.hwType ++ (ofWord16 q.protoType ++
        [q.hwLen, q.protoLen])) ++ (ofWord16 q.opcode ++ (q.senderHw.octets ++
          (q.senderIp.octets ++ (q.targetHw.octets ++ q.targetIp.octets)))) := by
      simp only [Wire.encode, List.append_assoc]
    rw [hsplit, byteAt_append]
    exact if_pos hk
  rw [hfront, hfront, answer]

/-- Version, identifier and protocol of an answer are those of a plain packet that it answers. -/
lemma Ipv4Header.byteAt_answer {h : Ipv4Header} {protocol : UInt8}
    (hplain : h.versionIhl = plainVersionIhl) (hprotocol : h.protocol = protocol) (len : Nat)
    {k : Nat} (hk : k = 0 ∨ k = 4 ∨ k = 5 ∨ k = 9) :
    byteAt (Wire.encode (h.answer protocol len)) k = byteAt (Wire.encode h) k := by
  rcases hk with rfl | rfl | rfl | rfl
  · exact hplain.symm
  · rfl
  · rfl
  · exact hprotocol.symm

namespace TcpHeader

variable (h : TcpHeader)

lemma encode_eq : Wire.encode h =
    (ofWord16 h.srcPort ++ ofWord16 h.dstPort ++ ofWord32 h.seq ++ ofWord32 h.ack) ++
      (ofWord16 h.offsetAndFlags ++ (ofWord16 h.window ++ ofWord16 h.checksum ++
        ofWord16 h.urgent)) :=
  rfl

lemma byteAt_swapForReply {k : Nat} (hk : 12 ≤ k) :
    byteAt (Wire.encode h.swapForReply) k = byteAt (Wire.encode h) k := by
  rw [encode_eq, encode_eq]
  exact byteAt_append_congr rfl hk

lemma byteAt_advanceAck (n : Nat) {k : Nat} (hk : 12 ≤ k) :
    byteAt (Wire.encode (h.advanceAck n)) k = byteAt (Wire.encode h) k := by
  rw [encode_eq, encode_eq]
  exact byteAt_append_congr rfl hk

/-- A control reply has flags of its own. -/
lemma byteAt_controlReply {k : Nat} (hk : 14 ≤ k) :
    byteAt (Wire.encode h.controlReply) k = byteAt (Wire.encode h) k := by
  have hkept : h.controlReply.window = h.window ∧ h.controlReply.checksum = h.checksum ∧
      h.controlReply.urgent = h.urgent := by
    unfold controlReply
    dsimp only
    split <;> split <;> exact ⟨rfl, rfl, rfl⟩
  obtain ⟨hwindow, hsum, hurgent⟩ := hkept
  have hsplit (g : TcpHeader) : Wire.encode g =
      (ofWord16 g.srcPort ++ ofWord16 g.dstPort ++ ofWord32 g.seq ++ ofWord32 g.ack ++
        ofWord16 g.offsetAndFlags) ++
          (ofWord16 g.window ++ ofWord16 g.checksum ++ ofWord16 g.urgent) := rfl
  rw [hsplit, hsplit, hwindow, hsum, hurgent]
  exact byteAt_append_congr rfl hk

end TcpHeader

/-- An echo reply differs from its request in type and checksum. -/
lemma Icmp.byteAt_echoed {message : Bytes} {k : Nat} (hk : k = 1 ∨ 4 ≤ k) :
    byteAt (echoed message) k = byteAt message k := by
  have hfield (w : UInt16) : ¬ (2 ≤ k ∧ k < 2 + (ofWord16 w).length ∧ k < message.length) := by
    show ¬ (2 ≤ k ∧ k < 2 + 2 ∧ k < message.length)
    omega
  unfold echoed fillChecksum
  dsimp only
  rw [byteAt_overwrite, length_overwrite, if_neg (hfield _)]
  refine Wire.byteAt_overwrite_of_eq fun j hj hkj => ?_
  rw [Nat.zero_add] at hkj
  subst hkj
  have hcases : k = 1 ∨ k = 4 ∨ k = 5 ∨ k = 6 ∨ k = 7 := by
    have hlt : k < 8 := hj
    omega
  rcases hcases with rfl | rfl | rfl | rfl | rfl
  all_goals rfl

/-! ### What a reply may rewrite -/

namespace Received

/-- In front of a packet's payload, everything but the type of the frame, and the version, the
identifier and the protocol of the packet. -/
def OuterRewritten (i : Nat) : Prop :=
  i < 12 ∨ 15 ≤ i ∧ i < 18 ∨ 20 ≤ i ∧ i < 23 ∨ 24 ≤ i ∧ i < 34

/-- The positions that a reply of this kind to a frame may rewrite. -/
def Rewritten (b : Bytes) (i : Nat) : ReplyKind → Prop
  | .arp => i < 12 ∨ 20 ≤ i ∧ i < 42
  | .echo => OuterRewritten i ∨ i = 34 ∨ 36 ≤ i ∧ i < 38
  | .udp => OuterRewritten i ∨ 34 ≤ i ∧ i < 42 ∨ 42 ≤ i
  | .tcpControl => OuterRewritten i ∨ 34 ≤ i ∧ i < 48 ∨ 50 ≤ i ∧ i < 52
  | .tcpData =>
    OuterRewritten i ∨ 34 ≤ i ∧ i < 46 ∨ 50 ≤ i ∧ i < 52 ∨ 34 + (tcp b).dataOffset ≤ i

/-- Of which kind a reply to this frame is, if there is one. -/
def replyKind (b : Bytes) : ReplyKind :=
  if (ethernet b).etherType = EtherType.arp then .arp
  else if (ip b).protocol = IpProtocol.icmp then .echo
  else if (ip b).protocol = IpProtocol.udp then .udp
  else if (tcp b).has TcpFlag.psh then .tcpData
  else .tcpControl

variable {s : Settings} {b : Bytes}

lemma AsksArp.replyKind_eq (h : AsksArp s b) : replyKind b = .arp := if_pos h.etherType

lemma Accepted.replyKind_eq (h : Accepted s b) :
    replyKind b =
      if (ip b).protocol = IpProtocol.icmp then .echo
      else if (ip b).protocol = IpProtocol.udp then .udp
      else if (tcp b).has TcpFlag.psh then .tcpData
      else .tcpControl := by
  rw [replyKind, if_neg]
  rw [h.etherType]
  decide

lemma AsksEcho.replyKind_eq (h : AsksEcho s b) : replyKind b = .echo := by
  rw [h.toAccepted.replyKind_eq, if_pos h.protocol]

lemma CarriesDatagram.replyKind_eq (h : CarriesDatagram s b) : replyKind b = .udp := by
  rw [h.toAccepted.replyKind_eq, h.protocol]
  rfl

lemma CarriesSegment.replyKind_eq (h : CarriesSegment s b) :
    replyKind b = if (tcp b).has TcpFlag.psh then .tcpData else .tcpControl := by
  rw [h.toAccepted.replyKind_eq, h.protocol]
  rfl

lemma Accepted.rewritten_of_outer (h : Accepted s b) {i : Nat} (hi : OuterRewritten i) :
    Rewritten b i (replyKind b) := by
  rw [h.replyKind_eq]
  split
  · exact .inl hi
  split
  · exact .inl hi
  split <;> exact .inl hi

/-- The reply is the frame that it answers, with some bytes rewritten. -/
structure RepliesInPlace (b reply : Bytes) : Prop where
  kept : ∀ i < reply.length, ¬ Rewritten b i (replyKind b) → reply[i]? = b[i]?
  length_echo : replyKind b = .echo →
    reply.length = ipOffset + min (ip b).totalLength.toNat (b.length - ipOffset)
  length_control : replyKind b = .tcpControl → reply.length = 54

end Received

namespace Frame

variable {s : Settings} {r : Registry} {turn i n : Nat} {b : Bytes} {f g : Frame}

lemma getElem?_slice_zero (hf : f.Holds b) (hn : n ≤ frameSize) (hi : i < n) (hib : i < b.length)
    (h : g.byte i = f.byte i) : (g.slice 0 n)[i]? = b[i]? := by
  have hsome (x : Bytes) (hx : i < x.length) : x[i]? = some (byteAt x i) := by
    rw [byteAt_of_lt hx, List.getElem?_eq_getElem hx]
  have hlen : i < (g.slice 0 n).length := by
    rw [length_slice]
    omega
  rw [hsome _ hlen, hsome _ hib, byteAt_slice, if_pos (by omega), Nat.zero_add, h, hf.byte_eq i hib]

/-! ### The outer headers -/

lemma byte_addressed {protocol : UInt8} {len : Nat}
    (hplain : (f.get Ipv4Header ipOffset).versionIhl = Ipv4Header.plainVersionIhl)
    (hprotocol : (f.get Ipv4Header ipOffset).protocol = protocol) (hi : ¬ OuterRewritten i) :
    (f.addressed s protocol len).byte i = f.byte i := by
  unfold OuterRewritten at hi
  have heth : (f.put ipOffset ((f.get Ipv4Header ipOffset).answer protocol len)).get
      EthernetHeader 0 = f.get EthernetHeader 0 :=
    (agreeOn_put (.inr (Nat.le_refl ipOffset))).get_ethernet (Nat.le_refl 14)
  calc (f.addressed s protocol len).byte i
    _ = (f.put ipOffset ((f.get Ipv4Header ipOffset).answer protocol len)).byte i := by
      refine byte_put_of_eq _ fun k _ hik => ?_
      rw [heth]
      exact EthernetHeader.byteAt_turnAround _ _ (by omega)
    _ = f.byte i := by
      refine byte_put_of_eq _ fun k hk hik => ?_
      have hk' : k < 20 := hk
      have hik' : i = 14 + k := hik
      exact Ipv4Header.byteAt_answer hplain hprotocol _ (by omega)

/-- Of an answer to a packet, everything in front of the payload is settled by this, and what is
left to be seen is the payload. -/
lemma repliesInPlace_addressed {protocol : UInt8} (hf : f.Holds b) (h : Accepted s b)
    (hprotocol : (ip b).protocol = protocol) (hg : AgreeOn 0 transportOffset g f)
    (hn : n ≤ 1480)
    (hinner : ∀ i, 34 ≤ i → i < 34 + n → ¬ Rewritten b i (replyKind b) →
      i < b.length ∧ g.byte i = f.byte i)
    (hecho : replyKind b = .echo → n = packetLength b - 20)
    (hcontrol : replyKind b = .tcpControl → n = 20) :
    RepliesInPlace b ((g.addressed s protocol n).slice 0 (transportOffset + n)) := by
  have hip := get_ipv4_accepted hf h hg
  have hroom : 34 + n ≤ 1536 := by omega
  have hlen : ((g.addressed s protocol n).slice 0 (transportOffset + n)).length =
      transportOffset + n := by
    rw [length_slice]
    exact Nat.min_eq_left hroom
  refine ⟨fun i hi hout => ?_, fun hkind => ?_, fun hkind => ?_⟩
  · rw [hlen] at hi
    -- the outer headers are still those that have been received
    have hkept : i < b.length ∧ g.byte i = f.byte i := by
      rcases Nat.lt_or_ge i transportOffset with hfront | hbehind
      · exact ⟨Nat.lt_of_lt_of_le hfront h.length_le, hg i (Nat.zero_le _) hfront⟩
      · exact hinner i hbehind hi hout
    refine getElem?_slice_zero hf hroom hi hkept.1 ?_
    have hplain : (g.get Ipv4Header ipOffset).versionIhl = Ipv4Header.plainVersionIhl := by
      rw [hip, h.plain]
    rw [byte_addressed hplain (by rw [hip, hprotocol]) (mt h.rewritten_of_outer hout), hkept.2]
  · rw [hlen, hecho hkind, h.end_eq]
    rfl
  · rw [hlen, hcontrol hkind]

/-! ### What stands behind them -/

lemma byte_summed (hi : i < 50 ∨ 52 ≤ i) : (f.summed n).byte i = f.byte i :=
  agreeOn_summed f (show 34 + 18 ≤ i ∨ i + 1 ≤ 34 + 16 by omega) i (Nat.le_refl _)
    (Nat.lt_succ_self _)

lemma byte_ended (h : i < ipOffset + packetLength b) : (f.ended b).byte i = f.byte i :=
  agreeOn_ended (Nat.le_refl _) i (Nat.zero_le _) h

/-- A message stands where it stood, and so does all of it that its reply has in common with it. -/
lemma byte_echoing (hf : f.Holds b) (h : AsksEcho s b) (hi : i = 35 ∨ 38 ≤ i)
    (hend : i < ipOffset + packetLength b) : (f.echoing b).byte i = f.byte i := by
  have hlen : (Icmp.echoed (message b)).length = packetLength b - 20 := by
    rw [Icmp.length_echoed, h.length_message]
  have hib : i < b.length := Nat.lt_of_lt_of_le hend h.end_le
  rw [echoing, byte_write]
  split
  next hin =>
    have hin' : 34 ≤ i ∧ i < 14 + packetLength b := ⟨hin.1, hend⟩
    have hpos : i - transportOffset < ipOffset + packetLength b - transportOffset :=
      show i - 34 < 14 + packetLength b - 34 by omega
    rw [Icmp.byteAt_echoed (show i - 34 = 1 ∨ 4 ≤ i - 34 by omega), message, Bytes.byteAt_slice,
      if_pos hpos, Nat.add_sub_cancel' hin.1, hf.byte_eq i hib]
  · exact byte_ended hend

/-- A header that is written back may differ in front only. -/
lemma byte_put_tcp {header : TcpHeader} (m : Nat) (h : ∀ k, m ≤ k →
      byteAt (Wire.encode header) k = byteAt (Wire.encode (f.get TcpHeader transportOffset)) k)
    (hi : transportOffset + m ≤ i) : (f.put transportOffset header).byte i = f.byte i := by
  refine byte_put_of_eq _ fun k _ hik => h k ?_
  omega

lemma get_tcp_of_carriesSegment (hf : f.Holds b) (h : CarriesSegment s b) :
    (f.ended b).get TcpHeader transportOffset = tcp b := by
  have hlen := h.header
  exact get_ended hf h.toAccepted (show 34 + 20 ≤ 14 + packetLength b by omega)

lemma byte_controlling (hf : f.Holds b) (h : CarriesSegment s b) (hi : 48 ≤ i) (hi' : i < 54) :
    (f.controlling b).byte i = f.byte i := by
  have hlen := h.header
  have hend : i < 14 + packetLength b := by omega
  calc (f.controlling b).byte i
    _ = (f.ended b).byte i := by
      refine byte_put_tcp 14 (fun k hk => ?_) hi
      rw [get_tcp_of_carriesSegment hf h]
      exact TcpHeader.byteAt_controlReply _ hk
    _ = f.byte i := byte_ended hend

/-- Neither the padding nor the acknowledgment of an answer touches what stands between the two. -/
lemma byte_segment {offset len : Nat}
    (hoff : (f.get TcpHeader transportOffset).dataOffset = offset) (hge : 20 ≤ offset)
    (hi : 46 ≤ i) (hi' : i < transportOffset + offset) : (f.segment r len).byte i = f.byte i := by
  have hpad : AgreeOn 0 (transportOffset + offset)
      (f.padEven (transportOffset + offset) len) f :=
    agreeOn_padEven f (Nat.le_add_right _ _)
  have htcp := hpad.get_tcp (Nat.add_le_add_left hge transportOffset)
  unfold segment
  dsimp only
  rw [hoff]
  calc ((f.padEven (transportOffset + offset) len).put transportOffset _).byte i
    _ = (f.padEven (transportOffset + offset) len).byte i := by
      refine byte_put_tcp 12 (fun k hk => ?_) hi
      rw [htcp]
      split
      · rfl
      · exact TcpHeader.byteAt_advanceAck _ len hk
    _ = f.byte i := hpad i (Nat.zero_le _) hi'

lemma byte_offeringSegment (hf : f.Holds b) (h : CarriesSegment s b) (hi : 46 ≤ i)
    (hi' : i < transportOffset + (tcp b).dataOffset) :
    (f.offeringSegment b).byte i = f.byte i := by
  have hlen := h.header
  have hle := h.offset_le
  -- the packet ends behind the options, and so does what has been written to end it
  have hend : i < ipOffset + packetLength b := by
    rw [← h.toAccepted.end_eq]
    omega
  calc (f.offeringSegment b).byte i
    _ = (f.ended b).byte i := by
      refine byte_put_tcp 12 (fun k hk => ?_) hi
      rw [get_tcp_of_carriesSegment hf h]
      exact TcpHeader.byteAt_swapForReply _ hk
    _ = f.byte i := byte_ended hend

/-- The flags, the window, the urgent pointer and the options of a segment stay, whatever the
application does with the data behind them. -/
lemma byte_answeringSegment {handler : Handler} {len : Nat} (hf : f.Holds b)
    (h : CarriesSegment s b) (hi : 46 ≤ i ∧ i < 50 ∨ 52 ≤ i)
    (hi' : i < transportOffset + (tcp b).dataOffset) :
    ((f.offeringSegment b).answeringSegment r (segmentCall b handler) turn (tcp b).dataOffset
      len).byte i = f.byte i := by
  have hturned : AgreeOn 0 (transportOffset + (tcp b).dataOffset)
      ((f.offeringSegment b).turned (segmentCall b handler) turn) (f.offeringSegment b) :=
    agreeOn_turned _ _ _ (Nat.le_refl _)
  calc ((f.offeringSegment b).answeringSegment r (segmentCall b handler) turn
          (tcp b).dataOffset len).byte i
    _ = (((f.offeringSegment b).turned (segmentCall b handler) turn).segment r len).byte i :=
      byte_summed (by omega)
    _ = ((f.offeringSegment b).turned (segmentCall b handler) turn).byte i :=
      byte_segment (dataOffset_turned h) h.offset_ge (by omega) hi'
    _ = (f.offeringSegment b).byte i := hturned i (Nat.zero_le _) hi'
    _ = f.byte i := byte_offeringSegment hf h (by omega) hi'

/-! ### Demand by demand -/

lemma repliesInPlace_arp (hf : f.Holds b) (h : AsksArp s b) :
    RepliesInPlace b (((f.put ipOffset ((arp b).answer s.mac s.ip)).put 0
      ((ethernet b).turnAround s.mac)).slice 0 42) := by
  have hlen := h.length_le
  have hkind := h.replyKind_eq
  have harp : f.get ArpPacket ipOffset = arp b := hf.get_eq hlen
  have heth : (f.put ipOffset ((arp b).answer s.mac s.ip)).get EthernetHeader 0 = ethernet b := by
    rw [(agreeOn_put (.inr (Nat.le_refl 14))).get_ethernet (Nat.le_refl 14),
      hf.get_ethernet (by omega)]
  refine ⟨fun i hi hout => ?_, fun hecho => ?_, fun hcontrol => ?_⟩
  · rw [length_slice] at hi
    rw [hkind, Rewritten] at hout
    refine getElem?_slice_zero hf (by decide) (by omega) (by omega) ?_
    calc ((f.put ipOffset ((arp b).answer s.mac s.ip)).put 0
            ((ethernet b).turnAround s.mac)).byte i
      _ = (f.put ipOffset ((arp b).answer s.mac s.ip)).byte i := by
        refine byte_put_of_eq _ fun k _ hik => ?_
        rw [heth]
        exact EthernetHeader.byteAt_turnAround _ _ (by omega)
      _ = f.byte i := by
        refine byte_put_of_eq _ fun k _ hik => ?_
        have hik' : i = 14 + k := hik
        rw [harp]
        exact ArpPacket.byteAt_answer _ _ _ (by omega)
  · cases hkind.symm.trans hecho
  · cases hkind.symm.trans hcontrol

lemma repliesInPlace_echo (hf : f.Holds b) (h : AsksEcho s b) (hfits : packetLength b ≤ 1500) :
    RepliesInPlace b (((f.echoing b).addressed s IpProtocol.icmp (packetLength b - 20)).slice 0
      (transportOffset + (packetLength b - 20))) := by
  have hkind := h.replyKind_eq
  refine repliesInPlace_addressed hf h.toAccepted h.protocol (agreeOn_echoing h.toAccepted)
    (by omega) ?_ (fun _ => rfl) fun hcontrol => nomatch hkind.symm.trans hcontrol
  intro i hi hend hout
  rw [hkind, Rewritten, not_or] at hout
  replace hend : i < ipOffset + packetLength b := by rwa [← h.end_eq]
  exact ⟨Nat.lt_of_lt_of_le hend h.end_le, byte_echoing hf h (by omega) hend⟩

lemma repliesInPlace_control (hf : f.Holds b) (h : CarriesSegment s b)
    (hpsh : (tcp b).has TcpFlag.psh = false) :
    RepliesInPlace b ((((f.controlling b).summed 20).addressed s IpProtocol.tcp 20).slice 0
      (transportOffset + 20)) := by
  have hkind : replyKind b = .tcpControl := by
    rw [h.replyKind_eq, hpsh]
    rfl
  have hlen := h.header
  have hend : 14 + packetLength b ≤ b.length := h.end_le
  have hfront : AgreeOn 0 transportOffset ((f.controlling b).summed 20) f :=
    (agreeOn_summed _ (.inr (by decide))).trans (agreeOn_controlling h.toAccepted)
  refine repliesInPlace_addressed hf h.toAccepted h.protocol hfront (by decide) ?_
    (fun hecho => nomatch hkind.symm.trans hecho) fun _ => rfl
  intro i hi hi' hout
  rw [hkind, Rewritten, not_or] at hout
  have hi54 : i < 54 := hi'
  have hib : i < b.length := by omega
  refine ⟨hib, ?_⟩
  rw [byte_summed (by omega), byte_controlling hf h (by omega) hi54]

lemma repliesInPlace_segment {handler : Handler} {len : Nat} (hf : f.Holds b)
    (h : CarriesSegment s b) (hpsh : (tcp b).has TcpFlag.psh = true)
    (hreply : (((f.offeringSegment b).exchange (segmentCall b handler)).after turn handler).reply =
      some len) :
    RepliesInPlace b ((((f.offeringSegment b).answeringSegment r (segmentCall b handler) turn
      (tcp b).dataOffset len).addressed s IpProtocol.tcp
        ((tcp b).dataOffset + evenLength len)).slice 0
          (transportOffset + ((tcp b).dataOffset + evenLength len))) := by
  have hkind : replyKind b = .tcpData := by
    rw [h.replyKind_eq, hpsh]
    rfl
  have heven := evenLength_le len
  have hlt : 34 + (tcp b).dataOffset + len < 1514 := reply_segment_lt hreply
  have hend : 14 + packetLength b ≤ b.length := h.end_le
  have hlen := h.header
  have hle := h.offset_le
  have hfront : AgreeOn 0 transportOffset ((f.offeringSegment b).answeringSegment r
      (segmentCall b handler) turn (tcp b).dataOffset len) f :=
    ((agreeOn_summed _ (.inr (by decide))).trans (agreeOn_segment r _)).trans
      (agreeOn_turned_segment h.toAccepted)
  refine repliesInPlace_addressed hf h.toAccepted h.protocol hfront (by omega) ?_
    (fun hecho => nomatch hkind.symm.trans hecho) fun hcontrol => nomatch hkind.symm.trans hcontrol
  intro i hi _ hout
  rw [hkind, Rewritten, not_or] at hout
  have hi' : i < 34 + (tcp b).dataOffset := by omega
  exact ⟨by omega, byte_answeringSegment hf h (by omega) hi'⟩

lemma repliesInPlace_datagram {handler : Handler} {len : Nat} (hf : f.Holds b)
    (h : CarriesDatagram s b)
    (hreply : (((f.offeringDatagram b).exchange (datagramCall b handler)).after turn
      handler).reply = some len) :
    RepliesInPlace b ((((f.offeringDatagram b).answeringDatagram s (datagramCall b handler) turn
      len).addressed s IpProtocol.udp (8 + evenLength len)).slice 0
        (transportOffset + (8 + evenLength len))) := by
  have hkind := h.replyKind_eq
  have heven := evenLength_le len
  have hle := reply_datagram_le hreply
  have hmod := evenLength_mod_two len
  refine repliesInPlace_addressed hf h.toAccepted h.protocol
    ((agreeOn_datagram s _).trans (agreeOn_turned_datagram h.toAccepted)) (by omega) ?_
    (fun hecho => nomatch hkind.symm.trans hecho) fun hcontrol => nomatch hkind.symm.trans hcontrol
  -- header and data of a datagram are all there is
  intro i hi _ hout
  rw [hkind, Rewritten, not_or] at hout
  omega

lemma repliesInPlace_outgoing {reply : Bytes} (hf : f.Holds b)
    (hreply : (f.react s r turn b.length).outgoing? = some reply) : RepliesInPlace b reply := by
  cases demand s r b with
  | arp h =>
    rw [outgoing?_of_asksArp hf h] at hreply
    cases hreply
    exact repliesInPlace_arp hf h
  | echo h =>
    rw [outgoing?_of_asksEcho hf h] at hreply
    split at hreply
    case isTrue hfits =>
      cases hreply
      exact repliesInPlace_echo hf h hfits
    case isFalse => cases hreply
  | control h hpsh =>
    rw [outgoing?_of_control hf h hpsh] at hreply
    cases hreply
    exact repliesInPlace_control hf h hpsh
  | segment handler h hpsh hh =>
    rw [outgoing?_of_segment hf h hpsh hh] at hreply
    obtain ⟨len, hlen, rfl⟩ := Option.map_eq_some_iff.1 hreply
    exact repliesInPlace_segment hf h hpsh hlen
  | datagram handler h hh =>
    rw [outgoing?_of_datagram hf h hh] at hreply
    obtain ⟨len, hlen, rfl⟩ := Option.map_eq_some_iff.1 hreply
    exact repliesInPlace_datagram hf h hlen
  | nothing h =>
    rw [(react_of_ignored hf h).outgoing?] at hreply
    cases hreply

end Frame

/-- **Replies are made in place**: whatever the host sends in answer to a received frame is that
frame, byte by byte, except where a reply of its kind has something of its own to say. -/
theorem dispatch_repliesInPlace {δ : Type} [Device δ] (h : Host δ) {b : Bytes}
    (hb : b.length ≤ frameSize) :
    ((h.holding b).dispatch b.length).device =
        Device.handed h.device (h.reaction b).outgoing? ∧
      ∀ reply, (h.reaction b).outgoing? = some reply → RepliesInPlace b reply := by
  obtain ⟨log, hdispatch⟩ := h.dispatch_eq b
  refine ⟨?_, fun reply hreply => ?_⟩
  · rw [hdispatch]
  · exact Frame.repliesInPlace_outgoing (Frame.holds_write h.frame hb) hreply

/-- The three bytes are echoed in the frame that they have come in. -/
theorem dispatch_repliesInPlace_oddDatagram : oddDatagram.length ≤ frameSize ∧ ∃ reply,
    (((Host.echoing []).holding oddDatagram).dispatch oddDatagram.length).device.sent = [reply] ∧
      RepliesInPlace oddDatagram reply := by
  obtain ⟨hout, hreply⟩ :=
    dispatch_repliesInPlace (Host.echoing []) (by decide : oddDatagram.length ≤ frameSize)
  have hsent := length_sent_oddDatagram
  refine ⟨by decide, ?_⟩
  rw [hout] at hsent ⊢
  generalize ((Host.echoing []).reaction oddDatagram).outgoing? = out at hsent hreply ⊢
  cases out with
  | none => cases hsent
  | some reply => exact ⟨reply, rfl, hreply reply rfl⟩

end PacketHost
