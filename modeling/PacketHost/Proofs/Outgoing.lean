import PacketHost.Proofs.Reacting

/-!
What goes out in reaction to a received frame, demand by demand.

An ARP request and a segment without data are always answered, an echo request unless its answer
would be too long, and an application answers if it leaves a reply. No reply that an application can
leave is too long to be sent.
-/

namespace PacketHost

open Bytes Received

@[simp] lemma TcpHeader.dataOffset_swapForReply (h : TcpHeader) :
    h.swapForReply.dataOffset = h.dataOffset :=
  rfl

/-- The offset is four bits wide and counts words. -/
lemma TcpHeader.dataOffset_le (h : TcpHeader) : h.dataOffset ≤ 60 := by
  have hword := h.offsetAndFlags.toNat_lt
  have hnibble : (h.offsetAndFlags >>> 12).toNat = h.offsetAndFlags.toNat / 4096 :=
    (UInt16.toNat_shiftRight ..).trans (Nat.shiftRight_eq_div_pow ..)
  rw [dataOffset, hnibble]
  omega

namespace Frame

variable {s : Settings} {r : Registry} {turn : Nat} {b : Bytes} {f : Frame}

lemma outgoing?_of_asksArp (hf : f.Holds b) (h : AsksArp s b) :
    (f.react s r turn b.length).outgoing? =
      some (((f.put ipOffset ((arp b).answer s.mac s.ip)).put 0
        ((ethernet b).turnAround s.mac)).slice 0 42) := by
  have hlen := h.length_le
  have heth : (f.put ipOffset ((arp b).answer s.mac s.ip)).get EthernetHeader 0 = ethernet b := by
    rw [(agreeOn_put (.inr (Nat.le_refl 14))).get_ethernet (Nat.le_refl 14),
      hf.get_ethernet (by omega)]
  rw [react_of_asksArp hf h, Reaction.outgoing?_note, Reaction.outgoing?_answering,
    outgoing?_answerEthernet s _ (by decide), heth]

/-- The frame with the echo reply in the place of the request. -/
def echoing (f : Frame) (b : Bytes) : Frame :=
  (f.ended b).write transportOffset (Icmp.echoed (message b))

lemma outgoing?_of_asksEcho (hf : f.Holds b) (h : AsksEcho s b) :
    (f.react s r turn b.length).outgoing? =
      if packetLength b ≤ 1500 then
        some (((f.echoing b).addressed s IpProtocol.icmp (packetLength b - 20)).slice 0
          (transportOffset + (packetLength b - 20)))
      else none := by
  have hmin := h.message
  rw [react_of_asksEcho hf h, Reaction.outgoing?_note, Reaction.outgoing?_answering]
  split
  · exact outgoing?_answerIpv4 s _ (by omega)
  · exact outgoing?_answerIpv4_of_lt s _ (by omega)

lemma agreeOn_echoing (h : Accepted s b) : AgreeOn 0 transportOffset (f.echoing b) f :=
  (agreeOn_write (.inr (Nat.le_refl _))).trans (agreeOn_accepted h)

/-- The frame with the header that answers a segment without data. -/
def controlling (f : Frame) (b : Bytes) : Frame :=
  (f.ended b).put transportOffset (tcp b).controlReply

lemma outgoing?_of_control (hf : f.Holds b) (h : CarriesSegment s b)
    (hpsh : (tcp b).has TcpFlag.psh = false) :
    (f.react s r turn b.length).outgoing? =
      some ((((f.controlling b).summed 20).addressed s IpProtocol.tcp 20).slice 0
        (transportOffset + 20)) := by
  rw [react_of_carriesSegment hf h, if_pos hpsh, Reaction.outgoing?_note,
    Reaction.outgoing?_answering]
  exact outgoing?_finishTcp s _ (by omega)

lemma agreeOn_controlling (h : Accepted s b) : AgreeOn 0 transportOffset (f.controlling b) f :=
  (agreeOn_put (.inr (Nat.le_refl _))).trans (agreeOn_accepted h)

/-- The frame that a segment's data is offered in. -/
def offeringSegment (f : Frame) (b : Bytes) : Frame :=
  (f.ended b).put transportOffset (tcp b).swapForReply

/-- The frame that a datagram's data is offered in. -/
def offeringDatagram (f : Frame) (b : Bytes) : Frame :=
  (f.ended b).terminate (udpDataOffset + min (udp b).payloadLength (packetLength b - 28))

lemma agreeOn_offeringSegment (h : Accepted s b) :
    AgreeOn 0 transportOffset (f.offeringSegment b) f :=
  (agreeOn_put (.inr (Nat.le_refl _))).trans (agreeOn_accepted h)

lemma agreeOn_offeringDatagram (h : Accepted s b) :
    AgreeOn 0 transportOffset (f.offeringDatagram b) f :=
  (agreeOn_write (.inr (Nat.le_add_right_of_le (by decide)))).trans (agreeOn_accepted h)

variable {handler : Handler}

lemma segmentCall_start_lt (b : Bytes) (handler : Handler) :
    (segmentCall b handler).start < maxFrameLength :=
  Nat.lt_of_le_of_lt (Nat.add_le_add_left (tcp b).dataOffset_le transportOffset) (by decide)

/-- The header of a segment stands turned around when its data is answered. -/
lemma dataOffset_turned (h : CarriesSegment s b) :
    (((f.offeringSegment b).turned (segmentCall b handler) turn).get TcpHeader
      transportOffset).dataOffset = (tcp b).dataOffset := by
  have hturned : AgreeOn 0 (transportOffset + 20)
      ((f.offeringSegment b).turned (segmentCall b handler) turn) (f.offeringSegment b) :=
    agreeOn_turned _ _ _ (Nat.add_le_add_left h.offset_ge transportOffset)
  rw [hturned.get_tcp (Nat.le_refl 54), offeringSegment, get_put_tcp,
    TcpHeader.dataOffset_swapForReply]

/-- An application that answers a segment leaves the outer headers alone. -/
lemma agreeOn_turned_segment (h : Accepted s b) :
    AgreeOn 0 transportOffset ((f.offeringSegment b).turned (segmentCall b handler) turn) f :=
  (agreeOn_turned _ _ _ (Nat.le_add_right _ _)).trans (agreeOn_offeringSegment h)

lemma agreeOn_turned_datagram (h : Accepted s b) :
    AgreeOn 0 transportOffset ((f.offeringDatagram b).turned (datagramCall b handler) turn) f :=
  (agreeOn_turned _ _ _ (Nat.le_add_right _ 8)).trans (agreeOn_offeringDatagram h)

/-- A reply to a segment leaves room for a byte of padding. -/
lemma reply_segment_lt {len : Nat}
    (h : (((f.offeringSegment b).exchange (segmentCall b handler)).after turn handler).reply =
      some len) :
    transportOffset + (tcp b).dataOffset + len < maxFrameLength :=
  (f.offeringSegment b).reply_turned_lt (segmentCall b handler) turn h
    (segmentCall_start_lt b handler)

lemma reply_datagram_le {len : Nat}
    (h : (((f.offeringDatagram b).exchange (datagramCall b handler)).after turn handler).reply =
      some len) :
    len ≤ 1471 := by
  have hlt : 42 + len < 1514 :=
    (f.offeringDatagram b).reply_turned_lt (datagramCall b handler) turn h
      (by decide : udpDataOffset < maxFrameLength)
  omega

lemma react_of_segment (hf : f.Holds b) (h : CarriesSegment s b)
    (hpsh : (tcp b).has TcpFlag.psh = true)
    (hh : r.tcpHandler? (tcp b).dstPort = some handler) :
    f.react s r turn b.length =
      Reaction.called .tcpData (fun g len => g.answerTcp s r len)
        ((f.offeringSegment b).takeTurn (segmentCall b handler) turn) := by
  rw [react_of_carriesSegment hf h, if_neg (by simp [hpsh]), hh]
  rfl

lemma react_of_datagram (hf : f.Holds b) (h : CarriesDatagram s b)
    (hh : r.udpHandler? (udp b).dstPort = some handler) :
    f.react s r turn b.length =
      Reaction.called .udp (fun g len => g.answerUdp s len)
        ((f.offeringDatagram b).takeTurn (datagramCall b handler) turn) := by
  rw [react_of_carriesDatagram hf h, hh]
  rfl

/-- The frame with a reply of `len` bytes to a segment, before its outer headers are turned. -/
def answeringSegment (f : Frame) (r : Registry) (c : Call) (turn offset len : Nat) : Frame :=
  ((f.turned c turn).segment r len).summed (offset + evenLength len)

lemma outgoing?_of_segment (hf : f.Holds b) (h : CarriesSegment s b)
    (hpsh : (tcp b).has TcpFlag.psh = true)
    (hh : r.tcpHandler? (tcp b).dstPort = some handler) :
    (f.react s r turn b.length).outgoing? =
      (((f.offeringSegment b).exchange (segmentCall b handler)).after turn handler).reply.map
        fun len =>
          (((f.offeringSegment b).answeringSegment r (segmentCall b handler) turn
            (tcp b).dataOffset len).addressed s IpProtocol.tcp
              ((tcp b).dataOffset + evenLength len)).slice 0
                (transportOffset + ((tcp b).dataOffset + evenLength len)) := by
  rw [react_of_segment hf h hpsh hh, Reaction.outgoing?_called, Option.map_eq_bind]
  refine Option.bind_congr fun len hlen => ?_
  exact outgoing?_answerTcp s r _ (dataOffset_turned h) h.offset_ge (reply_segment_lt hlen)

/-- The same for a reply to a datagram. -/
def answeringDatagram (f : Frame) (s : Settings) (c : Call) (turn len : Nat) : Frame :=
  (f.turned c turn).datagram s len

lemma outgoing?_of_datagram (hf : f.Holds b) (h : CarriesDatagram s b)
    (hh : r.udpHandler? (udp b).dstPort = some handler) :
    (f.react s r turn b.length).outgoing? =
      (((f.offeringDatagram b).exchange (datagramCall b handler)).after turn handler).reply.map
        fun len =>
          (((f.offeringDatagram b).answeringDatagram s (datagramCall b handler) turn len).addressed
            s IpProtocol.udp (8 + evenLength len)).slice 0
              (transportOffset + (8 + evenLength len)) := by
  rw [react_of_datagram hf h hh, Reaction.outgoing?_called, Option.map_eq_bind]
  refine Option.bind_congr fun len hlen => ?_
  exact outgoing?_answerUdp s _ (reply_datagram_le hlen)

end Frame

end PacketHost
