import PacketHost.Proofs.Outgoing

/-!
Frames as byte strings.

What a host sends has been described so far by the buffer it is sent from. Here it is given as a
string of its own: the headers one after the other, and the payload behind them. The buffer is gone
from it, so that a frame can be followed from the one host to the other. Both directions are stated:
what goes out of a buffer is such a string, and its parts are found again by whoever reads it.
-/

namespace PacketHost

open Bytes Received

namespace Bytes

variable {x y z : Bytes} {n : Nat}

lemma decode_append {α : Type} [Wire α] [LawfulWire α] (a : α) (hx : x.length = n) :
    Wire.decode (x ++ (Wire.encode a ++ z)) n = a := by
  refine Wire.decode_of_holdsAt fun i hi => ?_
  rw [byteAt_append, if_neg (by omega), hx, Nat.add_sub_cancel_left, byteAt_append, if_pos hi]

lemma slice_append_append (hx : x.length = n) : slice (x ++ (y ++ z)) n (n + y.length) = y := by
  rw [slice, ← hx, List.drop_left, Nat.add_sub_cancel_left, List.take_left]

lemma slice_append_right (hx : x.length = n) : slice (x ++ y) n (n + y.length) = y := by
  have h := slice_append_append (y := y) (z := []) hx
  rwa [List.append_nil] at h

end Bytes

namespace Frame

lemma slice_append_slice (f : Frame) {start stop n : Nat} (h1 : start ≤ stop) (h2 : stop ≤ n) :
    f.slice start stop ++ f.slice stop n = f.slice start n := by
  have hdrop : (f.bytes.drop start).drop (stop - start) = f.bytes.drop stop := by
    rw [List.drop_drop, Nat.add_sub_cancel' h1]
  have hlen : n - start = stop - start + (n - stop) := by omega
  simp only [slice, Bytes.slice, hlen, List.take_add, hdrop]

/-- A frame begins with its Ethernet header. -/
lemma slice_zero (f : Frame) {n : Nat} (h : ipOffset ≤ n) :
    f.slice 0 n = Wire.encode (f.get EthernetHeader 0) ++ f.slice ipOffset n := by
  rw [← slice_eq_encode f (show 0 + 14 ≤ 1536 by decide)]
  exact (f.slice_append_slice (Nat.zero_le _) h).symm

lemma slice_ipOffset (f : Frame) {n : Nat} (h : transportOffset ≤ n) :
    f.slice ipOffset n = Wire.encode (f.get Ipv4Header ipOffset) ++ f.slice transportOffset n := by
  rw [← slice_eq_encode f (show 14 + 20 ≤ 1536 by decide)]
  exact (f.slice_append_slice (by decide) h).symm

end Frame

/-! ### ARP packets -/

/-- An ARP packet in a frame. -/
def arpFrame (dst src : MacAddr) (p : ArpPacket) : Bytes :=
  Wire.encode (EthernetHeader.mk dst src EtherType.arp) ++ Wire.encode p

@[simp] lemma length_arpFrame (dst src : MacAddr) (p : ArpPacket) :
    (arpFrame dst src p).length = 42 := rfl

@[simp] lemma ethernet_arpFrame (dst src : MacAddr) (p : ArpPacket) :
    ethernet (arpFrame dst src p) = ⟨dst, src, EtherType.arp⟩ :=
  decode_append (x := []) _ rfl

@[simp] lemma arp_arpFrame (dst src : MacAddr) (p : ArpPacket) : arp (arpFrame dst src p) = p := by
  have h := decode_append (z := []) (n := ipOffset) p
    (show (Wire.encode (EthernetHeader.mk dst src EtherType.arp)).length = 14 from rfl)
  rwa [List.append_nil] at h

lemma Frame.slice_arp (f : Frame) (h : (f.get EthernetHeader 0).etherType = EtherType.arp) :
    f.slice 0 42 = arpFrame (f.get EthernetHeader 0).dst (f.get EthernetHeader 0).src
      (f.get ArpPacket ipOffset) := by
  have hslice : f.slice ipOffset 42 = Wire.encode (f.get ArpPacket ipOffset) :=
    slice_eq_encode (α := ArpPacket) f (show 14 + 28 ≤ 1536 by decide)
  rw [slice_zero _ (show 14 ≤ 42 by decide), hslice, arpFrame, ← h]

/-- Whoever is asked for tells the asker. -/
lemma Frame.outgoing?_arpFrame {s : Settings} {r : Registry} {turn : Nat} {b : Bytes} {f : Frame}
    (hf : f.Holds b) (h : AsksArp s b) :
    (f.react s r turn b.length).outgoing? =
      some (arpFrame (ethernet b).src s.mac ((arp b).answer s.mac s.ip)) := by
  rw [outgoing?_of_asksArp hf h]
  generalize hk : (f.put ipOffset ((arp b).answer s.mac s.ip)).put 0
    ((ethernet b).turnAround s.mac) = k
  have heth : k.get EthernetHeader 0 = (ethernet b).turnAround s.mac := by
    rw [← hk, get_put_ethernet]
  have harp : k.get ArpPacket ipOffset = (arp b).answer s.mac s.ip := by
    rw [← hk, (agreeOn_put (.inl (Nat.le_refl 14))).get_eq (Nat.le_refl 14) (Nat.le_refl 42)]
    exact get_put _ _ _ (by decide)
  rw [slice_arp k (by rw [heth]; exact h.etherType), heth, harp]
  rfl

/-! ### IPv4 packets -/

/-- A packet with this payload, as a host sends it. -/
def packet (s : Settings) (hw : MacAddr) (protocol : UInt8) (peer : Ipv4Addr) (id : UInt16)
    (payload : Bytes) : Bytes :=
  Wire.encode (EthernetHeader.mk hw s.mac EtherType.ipv4) ++
    (Wire.encode (Ipv4Header.outgoing protocol id s.ip peer payload.length).withChecksum ++ payload)

section Packet

variable {s : Settings} {hw : MacAddr} {protocol : UInt8} {peer : Ipv4Addr} {id : UInt16}
  {payload : Bytes}

@[simp] lemma length_packet :
    (packet s hw protocol peer id payload).length = 34 + payload.length := by
  simp only [packet, List.length_append, LawfulWire.length_encode]
  show 14 + (20 + payload.length) = 34 + payload.length
  omega

@[simp] lemma ethernet_packet :
    ethernet (packet s hw protocol peer id payload) = ⟨hw, s.mac, EtherType.ipv4⟩ :=
  decode_append (x := []) _ rfl

@[simp] lemma ip_packet :
    ip (packet s hw protocol peer id payload) =
      (Ipv4Header.outgoing protocol id s.ip peer payload.length).withChecksum :=
  decode_append (n := ipOffset) _
    (show (Wire.encode (EthernetHeader.mk hw s.mac EtherType.ipv4)).length = 14 from rfl)

/-- No more than a frame can carry. -/
lemma packetLength_packet (h : payload.length ≤ 1480) :
    packetLength (packet s hw protocol peer id payload) = 20 + payload.length := by
  have htotal : (ip (packet s hw protocol peer id payload)).totalLength.toNat =
      20 + payload.length := by
    rw [ip_packet]
    show (UInt16.ofNat (20 + payload.length)).toNat = 20 + payload.length
    rw [UInt16.toNat_ofNat']
    omega
  rw [packetLength, htotal, length_packet]
  show min (20 + payload.length) (34 + payload.length - 14) = 20 + payload.length
  omega

lemma message_packet (h : payload.length ≤ 1480) :
    message (packet s hw protocol peer id payload) = payload := by
  have hfront : (Wire.encode (EthernetHeader.mk hw s.mac EtherType.ipv4) ++
      Wire.encode (Ipv4Header.outgoing protocol id s.ip peer payload.length).withChecksum).length =
        transportOffset := rfl
  have hstop : ipOffset + (20 + payload.length) = transportOffset + payload.length := by
    show 14 + (20 + payload.length) = 34 + payload.length
    omega
  rw [message, packetLength_packet h, hstop, packet, ← List.append_assoc]
  exact slice_append_right hfront

/-- A packet that a host sends is accepted by the one it is for, whether or not that verifies
checksums. -/
lemma accepted_packet {s' : Settings} (hpeer : peer = s'.ip) (h : payload.length ≤ 1480) :
    Accepted s' (packet s hw protocol peer id payload) where
  length_le := by
    rw [length_packet]
    omega
  etherType := by rw [ethernet_packet]
  plain := by
    rw [ip_packet]
    rfl
  dst := by
    rw [ip_packet]
    exact hpeer
  checks := by
    intro
    rw [ip_packet, Ipv4Header.checksumValid, checksum_withChecksum]
    rfl
  covers := by
    rw [packetLength_packet h]
    omega

/-- An answer leaves as a packet to whoever the buffer says the packet in it is from. -/
lemma Frame.outgoing?_packet (f : Frame) {n : Nat} (hn : n ≤ 1480)
    (heth : (f.get EthernetHeader 0).etherType = EtherType.ipv4)
    (hdst : (f.get Ipv4Header ipOffset).dst = s.ip) :
    (f.answerIpv4 s protocol n).outgoing? =
      some (packet s (f.get EthernetHeader 0).src protocol (f.get Ipv4Header ipOffset).src
        (f.get Ipv4Header ipOffset).id (f.slice transportOffset (transportOffset + n))) := by
  have hlen : (f.slice transportOffset (transportOffset + n)).length = n := by
    rw [length_slice]
    show min (34 + n - 34) (1536 - 34) = n
    omega
  have hpayload : (f.addressed s protocol n).slice transportOffset (transportOffset + n) =
      f.slice transportOffset (transportOffset + n) :=
    (agreeOn_addressed s f _).slice_eq (Nat.le_refl _) (Nat.le_refl _)
  have hturned : (f.get EthernetHeader 0).turnAround s.mac =
      ⟨(f.get EthernetHeader 0).src, s.mac, EtherType.ipv4⟩ := by
    rw [EthernetHeader.turnAround, ← heth]
  rw [outgoing?_answerIpv4 s f hn, slice_zero _ (Nat.le_trans (by decide) (Nat.le_add_right 34 n)),
    slice_ipOffset _ (Nat.le_add_right 34 n), get_ethernet_addressed, get_ipv4_addressed,
    hpayload, hturned, packet, hlen, Ipv4Header.answer, hdst]

end Packet

/-- An echo request that fits a frame is answered with its own message, turned into a reply. -/
lemma Frame.outgoing?_echoed {s : Settings} {r : Registry} {turn : Nat} {b : Bytes} {f : Frame}
    (hf : f.Holds b) (h : AsksEcho s b) (hlen : packetLength b ≤ 1500) :
    (f.react s r turn b.length).outgoing? =
      some (packet s (ethernet b).src IpProtocol.icmp (ip b).src (ip b).id
        (Icmp.echoed (message b))) := by
  have hmessage : (Icmp.echoed (message b)).length = packetLength b - 20 := by
    rw [Icmp.length_echoed, h.length_message]
  have hcovers := h.covers
  have hfront : AgreeOn 0 transportOffset (f.echoing b) f := agreeOn_echoing h.toAccepted
  have heth := get_ethernet_accepted hf h.toAccepted hfront
  have hip := get_ipv4_accepted hf h.toAccepted hfront
  have hpayload : (f.echoing b).slice transportOffset (transportOffset + (packetLength b - 20)) =
      Icmp.echoed (message b) := by
    rw [← hmessage]
    refine slice_write_self ?_
    rw [hmessage]
    show 34 + (packetLength b - 20) ≤ 1536
    omega
  rw [react_of_asksEcho hf h, Reaction.outgoing?_note, Reaction.outgoing?_answering]
  show ((f.echoing b).answerIpv4 s IpProtocol.icmp (packetLength b - 20)).outgoing? = _
  rw [outgoing?_packet _ (by omega) (by rw [heth]; exact h.etherType) (by rw [hip]; exact h.dst),
    heth, hip, hpayload]

end PacketHost
