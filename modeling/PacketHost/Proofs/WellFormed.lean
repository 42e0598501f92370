import PacketHost.Proofs.Dispatch
import PacketHost.Proofs.Outgoing

/-!
Every frame sent in answer is well formed.

What a well-formed answer is, is said of two byte strings, the received frame and the one sent, and
of the settings. The proof goes layer by layer: the outer two headers are the same for all packets
(`wellFormed_addressed`), so that of each kind of answer only the sum over what it carries is left.
-/

namespace PacketHost

open Bytes Received

/-- The message of a packet sums up, and its own length agrees with that of the packet. -/
inductive SumsUp (s : Settings) (h : Ipv4Header) (message : Bytes) : Prop
  | icmp (protocol : h.protocol = IpProtocol.icmp) (sum : checksum message = 0)
  | tcp (protocol : h.protocol = IpProtocol.tcp)
      (sum : pseudoHeaderChecksum h.src h.dst IpProtocol.tcp message = 0)
  | udp (protocol : h.protocol = IpProtocol.udp) (header : UdpHeader)
      (decoded : Wire.decode message 0 = header)
      (length : header.length.toNat = h.totalLength.toNat - 20)
      (even : header.length.toNat % 2 = 0)
      (sum : if s.fillUdpChecksums then
          header.checksum ≠ 0 ∧ pseudoHeaderChecksum h.src h.dst IpProtocol.udp message = 0
        else header.checksum = 0)

structure AnswersArp (s : Settings) (request reply : Bytes) : Prop where
  etherType : (ethernet reply).etherType = EtherType.arp
  length_eq : reply.length = 42
  opcode : (arp reply).opcode = ArpPacket.opReply
  senderHw : (arp reply).senderHw = s.mac
  senderIp : (arp reply).senderIp = s.ip
  targetHw : (arp reply).targetHw = (arp request).senderHw
  targetIp : (arp reply).targetIp = (arp request).senderIp

structure AnswersPacket (s : Settings) (request reply : Bytes) : Prop where
  etherType : (ethernet reply).etherType = EtherType.ipv4
  versionIhl : (ip reply).versionIhl = 0x45
  tos : (ip reply).tos = 0
  totalLength : (ip reply).totalLength.toNat = reply.length - ipOffset
  id : (ip reply).id = (ip request).id
  flagsFragment : (ip reply).flagsFragment = 0
  ttl : (ip reply).ttl = 128
  protocol : (ip reply).protocol = (ip request).protocol
  headerSum : checksum (slice reply ipOffset transportOffset) = 0
  src : (ip reply).src = s.ip
  dst : (ip reply).dst = (ip request).src
  sums : SumsUp s (ip reply) (reply.drop transportOffset)

/-- An answer to a received frame as it has to be. -/
structure WellFormedReply (s : Settings) (request reply : Bytes) : Prop where
  length_le : reply.length ≤ maxFrameLength
  dst : (ethernet reply).dst = (ethernet request).src
  src : (ethernet reply).src = s.mac
  etherType : (ethernet reply).etherType = (ethernet request).etherType
  body : AnswersArp s request reply ∨ AnswersPacket s request reply

namespace Frame

variable {s : Settings} {r : Registry} {turn : Nat} {b : Bytes} {f g : Frame}

/-! ### The headers of what is sent -/

lemma ethernet_slice {n : Nat} (f : Frame) (h : 14 ≤ n) :
    ethernet (f.slice 0 n) = f.get EthernetHeader 0 := by
  rw [ethernet, decode_slice f (Nat.le_sub_of_add_le h)]

lemma arp_slice {n : Nat} (f : Frame) (h : 42 ≤ n) :
    arp (f.slice 0 n) = f.get ArpPacket ipOffset := by
  rw [arp, decode_slice f (Nat.le_sub_of_add_le h), Nat.zero_add]

lemma ip_slice {n : Nat} (f : Frame) (h : 34 ≤ n) :
    ip (f.slice 0 n) = f.get Ipv4Header ipOffset := by
  rw [ip, decode_slice f (Nat.le_sub_of_add_le h), Nat.zero_add]

lemma tcp_slice {n : Nat} (f : Frame) (h : 54 ≤ n) :
    tcp (f.slice 0 n) = f.get TcpHeader transportOffset := by
  rw [tcp, decode_slice f (Nat.le_sub_of_add_le h), Nat.zero_add]

lemma wellFormed_arp (h : AsksArp s b) :
    WellFormedReply s b (((f.put ipOffset ((arp b).answer s.mac s.ip)).put 0
      ((ethernet b).turnAround s.mac)).slice 0 42) := by
  generalize hk : (f.put ipOffset ((arp b).answer s.mac s.ip)).put 0
    ((ethernet b).turnAround s.mac) = k
  have heth : ethernet (k.slice 0 42) = (ethernet b).turnAround s.mac := by
    rw [ethernet_slice k (by omega), ← hk, get_put_ethernet]
  have harp : arp (k.slice 0 42) = (arp b).answer s.mac s.ip := by
    rw [arp_slice k (by omega), ← hk,
      (agreeOn_put (.inl (Nat.le_refl 14))).get_eq (Nat.le_refl 14) (Nat.le_refl 42)]
    exact get_put _ _ _ (by decide)
  have hlen : (k.slice 0 42).length = 42 := k.length_slice 0 42
  exact {
    length_le := by rw [hlen]; decide
    dst := by rw [heth]; rfl
    src := by rw [heth]; rfl
    etherType := by rw [heth]; rfl
    body := .inl {
      etherType := by rw [heth]; exact h.etherType
      length_eq := hlen
      opcode := by rw [harp]; rfl
      senderHw := by rw [harp]; rfl
      senderIp := by rw [harp]; rfl
      targetHw := by rw [harp]; rfl
      targetIp := by rw [harp]; rfl } }

/-- Around a message that sums up, the outer two headers make a well-formed answer. -/
lemma wellFormed_addressed {protocol : UInt8} {n : Nat} (hf : f.Holds b) (h : Accepted s b)
    (hprot : (ip b).protocol = protocol) (hg : AgreeOn 0 transportOffset g f) (hn : n ≤ 1480)
    (hsum : SumsUp s ((ip b).answer protocol n)
      (g.slice transportOffset (transportOffset + n))) :
    WellFormedReply s b ((g.addressed s protocol n).slice 0 (transportOffset + n)) := by
  have heth : g.get EthernetHeader 0 = ethernet b := get_ethernet_accepted hf h hg
  have hip : g.get Ipv4Header ipOffset = ip b := get_ipv4_accepted hf h hg
  -- the two headers of the frame sent
  have heth' : ethernet ((g.addressed s protocol n).slice 0 (transportOffset + n)) =
      (ethernet b).turnAround s.mac := by
    rw [ethernet_slice _ (Nat.le_add_right_of_le (by decide)), get_ethernet_addressed, heth]
  have hip' : ip ((g.addressed s protocol n).slice 0 (transportOffset + n)) =
      (ip b).answer protocol n := by
    rw [ip_slice _ (Nat.le_add_right _ _), get_ipv4_addressed, hip]
  have hmsg : ((g.addressed s protocol n).slice 0 (transportOffset + n)).drop transportOffset =
      g.slice transportOffset (transportOffset + n) := by
    rw [drop_slice, (agreeOn_addressed s g _).slice_eq (Nat.le_refl _) (Nat.le_refl _)]
  have hhead : Bytes.slice ((g.addressed s protocol n).slice 0 (transportOffset + n)) ipOffset
      transportOffset = Wire.encode ((ip b).answer protocol n) := by
    rw [slice_slice _ (Nat.le_add_right _ _), ← hip, ← get_ipv4_addressed s g]
    exact slice_eq_encode (α := Ipv4Header) _ (show 14 + 20 ≤ 1536 by omega)
  have hlen : ((g.addressed s protocol n).slice 0 (transportOffset + n)).length = 34 + n := by
    rw [length_slice]
    show min (34 + n) 1536 = 34 + n
    omega
  have htotal : ((ip b).answer protocol n).totalLength.toNat = 20 + n := by
    show (UInt16.ofNat (20 + n)).toNat = 20 + n
    rw [UInt16.toNat_ofNat']
    omega
  exact {
    length_le := by rw [hlen]; exact (show 34 + n ≤ 1514 by omega)
    dst := by rw [heth']; rfl
    src := by rw [heth']; rfl
    etherType := by rw [heth']; rfl
    body := .inr {
      etherType := by rw [heth']; exact h.etherType
      versionIhl := by rw [hip']; rfl
      tos := by rw [hip']; rfl
      totalLength := by rw [hip', htotal, hlen]; exact (show 20 + n = 34 + n - 14 by omega)
      id := by rw [hip']; rfl
      flagsFragment := by rw [hip']; rfl
      ttl := by rw [hip']; rfl
      protocol := by rw [hip', hprot]; rfl
      headerSum := by rw [hhead]; exact checksum_withChecksum _
      src := by rw [hip']; exact h.dst
      dst := by rw [hip']; rfl
      sums := by rw [hip', hmsg]; exact hsum } }

/-! ### The messages -/

/-- A segment with its checksum filled in sums up, also after its addresses have changed places. -/
lemma sumsUp_summed {n : Nat} {h : Ipv4Header} (hip : g.get Ipv4Header ipOffset = h)
    (h1 : 18 ≤ n) (h2 : n ≤ 1480) :
    SumsUp s (h.answer IpProtocol.tcp n)
      ((g.summed n).slice transportOffset (transportOffset + n)) := by
  refine .tcp rfl ?_
  have hsum := sum_summed g h1 h2
  rw [hip] at hsum
  exact (pseudoHeaderChecksum_comm ..).trans hsum

lemma sumsUp_datagram {len : Nat} {h : Ipv4Header} (hip : g.get Ipv4Header ipOffset = h)
    (hlen : len ≤ 1471) :
    SumsUp s (h.answer IpProtocol.udp (8 + evenLength len))
      ((g.datagram s len).slice transportOffset
        (transportOffset + (8 + evenLength len))) := by
  have heven := evenLength_le len
  have hmod := evenLength_mod_two len
  have hnat : ∀ k < 65536, (UInt16.ofNat k).toNat = k := fun k hk => by
    rw [UInt16.toNat_ofNat']
    omega
  refine .udp rfl _ ((decode_slice _ (show 0 + 8 ≤ 34 + (8 + evenLength len) - 34 by omega)).trans
    (get_udp_datagram s g)) ?_ ?_ ?_
  · show (UInt16.ofNat (8 + evenLength len)).toNat =
      (UInt16.ofNat (20 + (8 + evenLength len))).toNat - 20
    rw [hnat _ (by omega), hnat _ (by omega)]
    omega
  · show (UInt16.ofNat (8 + evenLength len)).toNat % 2 = 0
    rw [hnat _ (by omega)]
    omega
  · cases hfill : s.fillUdpChecksums with
    | false => exact rfl
    | true =>
      have hsum := @sum_datagram s g len hfill
      rw [hip] at hsum
      exact ⟨udpChecksum_ne_zero _ _ _, (pseudoHeaderChecksum_comm ..).trans hsum⟩

/-! ### The reactions -/

/-- Whatever goes out in reaction to a frame is a well-formed answer to it. -/
lemma wellFormed_outgoing (hf : f.Holds b) {reply : Bytes}
    (hreply : (f.react s r turn b.length).outgoing? = some reply) :
    WellFormedReply s b reply := by
  cases demand s r b with
  | arp h =>
    rw [outgoing?_of_asksArp hf h] at hreply
    obtain rfl := Option.some.inj hreply
    exact wellFormed_arp h
  | echo h =>
    rw [outgoing?_of_asksEcho hf h] at hreply
    have hmin := h.message
    split at hreply
    next hmax =>
      obtain rfl := Option.some.inj hreply
      have hlen := h.toAccepted.length_message
      refine wellFormed_addressed hf h.toAccepted h.protocol (agreeOn_echoing h.toAccepted)
        (by omega) (.icmp rfl ?_)
      rw [echoing, ← hlen, ← Icmp.length_echoed, slice_write_self]
      · exact Icmp.checksum_echoed (by omega)
      · rw [Icmp.length_echoed, hlen]
        show 34 + (packetLength b - 20) ≤ 1536
        omega
    next => cases hreply
  | control h hpsh =>
    rw [outgoing?_of_control hf h hpsh] at hreply
    obtain rfl := Option.some.inj hreply
    have hg : AgreeOn 0 transportOffset (f.controlling b) f := agreeOn_controlling h.toAccepted
    exact wellFormed_addressed hf h.toAccepted h.protocol
      ((agreeOn_summed _ (.inr (by omega))).trans hg) (by omega)
      (sumsUp_summed (get_ipv4_accepted hf h.toAccepted hg) (by omega) (by omega))
  | segment handler h hpsh hh =>
    rw [outgoing?_of_segment hf h hpsh hh] at hreply
    obtain ⟨len, hlen, rfl⟩ := Option.map_eq_some_iff.1 hreply
    have hge := h.offset_ge
    have heven := evenLength_le len
    have hlt : 34 + (tcp b).dataOffset + len < 1514 := reply_segment_lt hlen
    have hturned : AgreeOn 0 transportOffset
        ((f.offeringSegment b).turned (segmentCall b handler) turn) f :=
      agreeOn_turned_segment h.toAccepted
    have hg : AgreeOn 0 transportOffset
        (((f.offeringSegment b).turned (segmentCall b handler) turn).segment r len) f :=
      (agreeOn_segment _ _).trans hturned
    exact wellFormed_addressed hf h.toAccepted h.protocol
      ((agreeOn_summed _ (.inr (by omega))).trans hg) (by omega)
      (sumsUp_summed (get_ipv4_accepted hf h.toAccepted hg) (by omega) (by omega))
  | datagram handler h hh =>
    rw [outgoing?_of_datagram hf h hh] at hreply
    obtain ⟨len, hlen, rfl⟩ := Option.map_eq_some_iff.1 hreply
    have hmin := h.header
    have heven := evenLength_le len
    have hmod := evenLength_mod_two len
    have hle := reply_datagram_le hlen
    have hturned : AgreeOn 0 transportOffset
        ((f.offeringDatagram b).turned (datagramCall b handler) turn) f :=
      agreeOn_turned_datagram h.toAccepted
    exact wellFormed_addressed hf h.toAccepted h.protocol
      ((agreeOn_datagram s _).trans hturned) (by omega)
      (sumsUp_datagram (get_ipv4_accepted hf h.toAccepted hturned) (by omega))
  | nothing h =>
    rw [(react_of_ignored hf h).outgoing?] at hreply
    cases hreply

end Frame

/-- **Answers are well formed**: a received frame makes the host send at most one frame, which is a
well-formed answer to it. -/
theorem dispatch_wellFormed {δ : Type} [Device δ] (h : Host δ) {b : Bytes}
    (hb : b.length ≤ frameSize) : ∃ out : Option Bytes,
      ((h.holding b).dispatch b.length).device = Device.handed h.device out ∧
        ∀ reply, out = some reply → WellFormedReply h.settings b reply := by
  obtain ⟨log, hdispatch⟩ := h.dispatch_eq b
  refine ⟨(h.reaction b).outgoing?, ?_, fun reply hreply => ?_⟩
  · rw [hdispatch]
  · exact Frame.wellFormed_outgoing (Frame.holds_write h.frame hb) hreply

/-- The echo of the three bytes, padded. -/
theorem dispatch_wellFormed_oddDatagram : oddDatagram.length ≤ frameSize ∧ ∃ reply,
    (((Host.echoing []).holding oddDatagram).dispatch oddDatagram.length).device.sent = [reply] ∧
      WellFormedReply (Host.echoing []).settings oddDatagram reply := by
  obtain ⟨out, hout, hreply⟩ :=
    dispatch_wellFormed (Host.echoing []) (by decide : oddDatagram.length ≤ frameSize)
  have hsent := length_sent_oddDatagram
  refine ⟨by decide, ?_⟩
  rw [hout] at hsent ⊢
  cases out with
  | none => cases hsent
  | some reply => exact ⟨reply, rfl, hreply reply rfl⟩

end PacketHost
