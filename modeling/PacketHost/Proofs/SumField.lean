import PacketHost.Proofs.Independence
import PacketHost.Proofs.WellFormed

/-!
What filling in UDP checksums changes in a frame.

A host that fills them in sends the same frames as one that leaves them out, but for one field of
the datagrams (`SameButSum`). The outer headers are written around the datagram and never over the
field, so that two frames that differ there only still do when their addresses have been turned
around.
-/

namespace PacketHost

open Bytes Received

/-- The same settings, with UDP checksums filled in or left out. -/
def Settings.filling (s : Settings) (fill : Bool) : Settings := { s with fillUdpChecksums := fill }

namespace Received

/-- The frame carries a datagram, for whomever. -/
@[mk_iff] structure IsUdp (b : Bytes) : Prop where
  etherType : (ethernet b).etherType = EtherType.ipv4
  protocol : (ip b).protocol = IpProtocol.udp

instance (b : Bytes) : Decidable (IsUdp b) := decidable_of_iff _ (isUdp_iff b).symm

/-- A datagram whose checksum is left out, and the same datagram with its checksum. -/
structure GivenSum (b b' : Bytes) : Prop where
  left : IsUdp b
  right : IsUdp b'
  length_eq : b.length = b'.length
  byte_eq : ∀ i, i ≠ 40 → i ≠ 41 → byteAt b i = byteAt b' i
  unset : word16At b 40 = 0
  set : word16At b' 40 ≠ 0
  datagram_length : transportOffset + (udp b').length.toNat = b'.length
  checks : pseudoHeaderChecksum (ip b').src (ip b').dst IpProtocol.udp (b'.drop transportOffset) = 0

/-- The same frame, unless it carries a datagram. -/
inductive SameButSum : Bytes → Bytes → Prop
  | other {b : Bytes} (h : ¬ IsUdp b) : SameButSum b b
  | udp {b b' : Bytes} (h : GivenSum b b') : SameButSum b b'

/-! ### What a frame asks for is no matter of sums -/

variable {s : Settings} {r : Registry} {b : Bytes} {fill : Bool}

lemma asksArp_filling : AsksArp (s.filling fill) b ↔ AsksArp s b :=
  (asksArp_iff _ b).trans (asksArp_iff s b).symm

lemma accepted_filling : Accepted (s.filling fill) b ↔ Accepted s b :=
  (accepted_iff _ b).trans (accepted_iff s b).symm

lemma asksEcho_filling : AsksEcho (s.filling fill) b ↔ AsksEcho s b := by
  rw [asksEcho_iff, asksEcho_iff, accepted_filling]

lemma carriesSegment_filling : CarriesSegment (s.filling fill) b ↔ CarriesSegment s b := by
  rw [carriesSegment_iff, carriesSegment_iff, accepted_filling]

lemma carriesDatagram_filling : CarriesDatagram (s.filling fill) b ↔ CarriesDatagram s b := by
  rw [carriesDatagram_iff, carriesDatagram_iff, accepted_filling]

lemma Calls.of_filling {c : Call} (h : Calls (s.filling fill) r b c) : Calls s r b c := by
  cases h with
  | segment h hpsh hh => exact .segment (carriesSegment_filling.1 h) hpsh hh
  | datagram h hh => exact .datagram (carriesDatagram_filling.1 h) hh

lemma Ignored.filling (h : Ignored s r b) (fill : Bool) : Ignored (s.filling fill) r b where
  arp := mt asksArp_filling.1 h.arp
  echo := mt asksEcho_filling.1 h.echo
  control hseg := h.control (carriesSegment_filling.1 hseg)
  calls c hc := h.calls c hc.of_filling

end Received

/-- An answer to anything but a datagram is not a datagram. -/
lemma WellFormedReply.isUdp {s : Settings} {request reply : Bytes}
    (h : WellFormedReply s request reply) (hudp : IsUdp reply) : IsUdp request := by
  refine ⟨h.etherType.symm.trans hudp.etherType, ?_⟩
  rcases h.body with harp | hpacket
  · exact absurd (harp.etherType.symm.trans hudp.etherType) (by decide)
  · exact hpacket.protocol.symm.trans hudp.protocol

namespace Frame

variable {s : Settings} {r : Registry} {turn len : Nat} {b : Bytes} {f : Frame}

/-! ### One datagram, sent in two ways -/

/-- What goes out of an answer with `len` bytes of data to the datagram in the frame. -/
def sentDatagram (s : Settings) (f : Frame) (len : Nat) : Bytes :=
  ((f.datagram s len).addressed s IpProtocol.udp (8 + evenLength len)).slice 0
    (transportOffset + (8 + evenLength len))

section SentDatagram

variable (s : Settings) (f : Frame) (len : Nat)

lemma length_sentDatagram (hlen : len ≤ 1471) :
    (f.sentDatagram s len).length = transportOffset + (8 + evenLength len) := by
  have heven := evenLength_le len
  rw [sentDatagram, length_slice]
  show min (34 + (8 + evenLength len)) 1536 = 34 + (8 + evenLength len)
  omega

lemma isUdp_sentDatagram (h : (f.get EthernetHeader 0).etherType = EtherType.ipv4) :
    IsUdp (f.sentDatagram s len) where
  etherType := by
    rw [sentDatagram, ethernet_slice _ (Nat.le_add_right_of_le (by decide)),
      get_ethernet_addressed, (f.agreeOn_datagram s).get_ethernet (by decide)]
    exact h
  protocol := by
    rw [sentDatagram, ip_slice _ (Nat.le_add_right _ _), get_ipv4_addressed]
    rfl

lemma ip_sentDatagram :
    ip (f.sentDatagram s len) =
      (f.get Ipv4Header ipOffset).answer IpProtocol.udp (8 + evenLength len) := by
  rw [sentDatagram, ip_slice _ (Nat.le_add_right _ _), get_ipv4_addressed,
    (f.agreeOn_datagram s).get_ipv4 (Nat.le_refl 34)]

lemma drop_sentDatagram :
    (f.sentDatagram s len).drop transportOffset =
      (f.datagram s len).slice transportOffset (transportOffset + (8 + evenLength len)) := by
  rw [sentDatagram, drop_slice, (agreeOn_addressed s _ _).slice_eq (Nat.le_refl _) (Nat.le_refl _)]

lemma udp_sentDatagram :
    udp (f.sentDatagram s len) =
      f.datagramHeader len (if s.fillUdpChecksums then f.datagramSum len else 0) := by
  rw [← get_udp_datagram, sentDatagram, udp,
    decode_slice _ (show 34 + 8 ≤ 34 + (8 + evenLength len) - 0 by omega)]
  exact (agreeOn_addressed s _ (transportOffset + 8)).get_eq (Nat.le_refl _) (Nat.le_refl _)

end SentDatagram

/-- Where its checksum is not, a datagram is sent as it is without one. -/
lemma byteAt_sentDatagram {i : Nat} (h1 : i ≠ 40) (h2 : i ≠ 41) :
    byteAt (f.sentDatagram (s.filling false) len) i =
      byteAt (f.sentDatagram (s.filling true) len) i := by
  have hoff : f.datagram (s.filling false) len = f.unsummed len := datagram_of_not_fill _ f rfl
  have hon : f.datagram (s.filling true) len =
      (f.unsummed len).write 40 (ofWord16 (f.datagramSum len)) := if_pos rfl
  rw [sentDatagram, sentDatagram, byteAt_slice, byteAt_slice, hoff, hon]
  split
  next =>
    rcases Nat.lt_or_ge i 40 with hi | hi
    · -- the outer headers are made of what stands in front of the field
      have hfront : AgreeOn 0 40 (f.unsummed len)
          ((f.unsummed len).write 40 (ofWord16 (f.datagramSum len))) :=
        (agreeOn_write (.inr (Nat.le_refl 40))).symm
      exact hfront.addressed (by decide) _ (Nat.zero_le _) (by omega)
    · have hbehind : AgreeOn 42 (i + 1) (f.unsummed len)
          ((f.unsummed len).write 40 (ofWord16 (f.datagramSum len))) :=
        (agreeOn_write (.inl (Nat.le_refl 42))).symm
      rw [Nat.zero_add, agreeOn_addressed _ _ (i + 1) i (show 34 ≤ i by omega) (by omega),
        agreeOn_addressed _ _ (i + 1) i (show 34 ≤ i by omega) (by omega)]
      exact hbehind i (by omega) (by omega)
  next => rfl

lemma givenSum_sentDatagram (h : (f.get EthernetHeader 0).etherType = EtherType.ipv4)
    (hlen : len ≤ 1471) :
    GivenSum (f.sentDatagram (s.filling false) len) (f.sentDatagram (s.filling true) len) where
  left := f.isUdp_sentDatagram _ len h
  right := f.isUdp_sentDatagram _ len h
  length_eq := by rw [length_sentDatagram _ f len hlen, length_sentDatagram _ f len hlen]
  byte_eq _ := byteAt_sentDatagram
  unset := congrArg UdpHeader.checksum (f.udp_sentDatagram (s.filling false) len)
  set hzero := by
    have hsum := congrArg UdpHeader.checksum (f.udp_sentDatagram (s.filling true) len)
    exact udpChecksum_ne_zero _ _ _ (hsum.symm.trans hzero)
  datagram_length := by
    have heven := evenLength_le len
    rw [length_sentDatagram _ f len hlen, udp_sentDatagram]
    show 34 + (UInt16.ofNat (8 + evenLength len)).toNat = 34 + (8 + evenLength len)
    rw [UInt16.toNat_ofNat']
    omega
  checks := by
    -- the sum has been taken before the addresses changed places
    rw [ip_sentDatagram, drop_sentDatagram]
    exact (pseudoHeaderChecksum_comm ..).trans (f.sum_datagram (s.filling true) rfl)

/-! ### Reactions -/

/-- Nothing but a datagram is touched. -/
lemma rel_sameButSum {x y : Option Bytes} (h : x = y) (hx : ∀ b ∈ x, ¬ IsUdp b) :
    Option.Rel SameButSum x y := by
  subst h
  cases x with
  | none => exact .none
  | some b => exact .some (.other (hx b rfl))

lemma outgoing?_filling (hf : f.Holds b) :
    Option.Rel SameButSum (f.react (s.filling false) r turn b.length).outgoing?
      (f.react (s.filling true) r turn b.length).outgoing? := by
  have hother (h : ¬ IsUdp b) :
      ∀ reply ∈ (f.react (s.filling false) r turn b.length).outgoing?, ¬ IsUdp reply :=
    fun reply hreply hudp => h ((wellFormed_outgoing hf hreply).isUdp hudp)
  cases demand s r b with
  | arp h =>
    refine rel_sameButSum ?_ (hother fun hudp => ?_)
    · rw [outgoing?_of_asksArp hf (asksArp_filling.2 h),
        outgoing?_of_asksArp hf (asksArp_filling.2 h)]
      rfl
    · exact absurd (h.etherType.symm.trans hudp.etherType) (by decide)
  | echo h =>
    refine rel_sameButSum ?_ (hother fun hudp => ?_)
    · rw [outgoing?_of_asksEcho hf (asksEcho_filling.2 h),
        outgoing?_of_asksEcho hf (asksEcho_filling.2 h)]
      rfl
    · exact absurd (h.protocol.symm.trans hudp.protocol) (by decide)
  | control h hpsh =>
    refine rel_sameButSum ?_ (hother fun hudp => ?_)
    · rw [outgoing?_of_control hf (carriesSegment_filling.2 h) hpsh,
        outgoing?_of_control hf (carriesSegment_filling.2 h) hpsh]
      rfl
    · exact absurd (h.protocol.symm.trans hudp.protocol) (by decide)
  | segment handler h hpsh hh =>
    refine rel_sameButSum ?_ (hother fun hudp => ?_)
    · rw [outgoing?_of_segment hf (carriesSegment_filling.2 h) hpsh hh,
        outgoing?_of_segment hf (carriesSegment_filling.2 h) hpsh hh]
      rfl
    · exact absurd (h.protocol.symm.trans hudp.protocol) (by decide)
  | datagram handler h hh =>
    rw [outgoing?_of_datagram hf (carriesDatagram_filling.2 h) hh,
      outgoing?_of_datagram hf (carriesDatagram_filling.2 h) hh]
    cases hreply :
        (((f.offeringDatagram b).exchange (datagramCall b handler)).after turn handler).reply with
    | none => exact .none
    | some len =>
      have heth : (((f.offeringDatagram b).turned (datagramCall b handler) turn).get
          EthernetHeader 0).etherType = EtherType.ipv4 := by
        rw [get_ethernet_accepted hf h.toAccepted (agreeOn_turned_datagram h.toAccepted),
          h.etherType]
      exact .some (.udp (givenSum_sentDatagram heth (reply_datagram_le hreply)))
  | nothing h =>
    rw [(react_of_ignored hf (h.filling false)).outgoing?,
      (react_of_ignored hf (h.filling true)).outgoing?]
    exact .none

lemma delivery_filling (hf : f.Holds b) :
    (f.react (s.filling false) r turn b.length).delivery =
      (f.react (s.filling true) r turn b.length).delivery := by
  cases demand s r b with
  | arp h =>
    rw [react_of_asksArp hf (asksArp_filling.2 h), react_of_asksArp hf (asksArp_filling.2 h)]
    rfl
  | echo h =>
    rw [react_of_asksEcho hf (asksEcho_filling.2 h), react_of_asksEcho hf (asksEcho_filling.2 h)]
    rfl
  | control h hpsh =>
    rw [react_of_carriesSegment hf (carriesSegment_filling.2 h),
      react_of_carriesSegment hf (carriesSegment_filling.2 h), if_pos hpsh, if_pos hpsh]
    rfl
  | segment handler h hpsh hh =>
    rw [react_of_segment hf (carriesSegment_filling.2 h) hpsh hh,
      react_of_segment hf (carriesSegment_filling.2 h) hpsh hh, Reaction.delivery_called,
      Reaction.delivery_called]
  | datagram handler h hh =>
    rw [react_of_datagram hf (carriesDatagram_filling.2 h) hh,
      react_of_datagram hf (carriesDatagram_filling.2 h) hh, Reaction.delivery_called,
      Reaction.delivery_called]
  | nothing h =>
    rw [(react_of_ignored hf (h.filling false)).2, (react_of_ignored hf (h.filling true)).2]

end Frame

end PacketHost
