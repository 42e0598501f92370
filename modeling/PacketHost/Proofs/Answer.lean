import PacketHost.Proofs.Agreement
import PacketHost.Proofs.WordSum
import PacketHost.Reply

/-!
What each layer of an answer leaves in the frame.

Every layer is described by its equation, by the header it writes and by the ranges it does not
touch: the outer two layers (`addressed`) touch nothing from the transport header on, and the
transport layers (`datagram`, `segment`, `summed`) touch nothing before it. So a header that one
layer has written is read back after the others, and a sum taken over a transport record still holds
when the frame goes out.
-/

namespace PacketHost

open Bytes

lemma evenLength_le (n : Nat) : evenLength n ≤ n + 1 := by
  unfold evenLength
  omega

lemma evenLength_mod_two (n : Nat) : evenLength n % 2 = 0 := by
  unfold evenLength
  omega

/-- What goes out of an answer. -/
def Prepared.outgoing? (p : Prepared) : Option Bytes :=
  match p.result with
  | .ok len => some (p.frame.bytes.take len)
  | .error _ => none

namespace Frame

/-! ### Headers in place -/

section Headers

variable {f g : Frame} {stop : Nat}

lemma AgreeOn.get_ethernet (h : AgreeOn 0 stop f g) (hstop : 14 ≤ stop) :
    f.get EthernetHeader 0 = g.get EthernetHeader 0 :=
  h.get_eq (Nat.le_refl 0) hstop

lemma AgreeOn.get_ipv4 (h : AgreeOn 0 stop f g) (hstop : 34 ≤ stop) :
    f.get Ipv4Header ipOffset = g.get Ipv4Header ipOffset :=
  h.get_eq (Nat.zero_le _) hstop

lemma AgreeOn.get_udp (h : AgreeOn 0 stop f g) (hstop : 42 ≤ stop) :
    f.get UdpHeader transportOffset = g.get UdpHeader transportOffset :=
  h.get_eq (Nat.zero_le _) hstop

lemma AgreeOn.get_tcp (h : AgreeOn 0 stop f g) (hstop : 54 ≤ stop) :
    f.get TcpHeader transportOffset = g.get TcpHeader transportOffset :=
  h.get_eq (Nat.zero_le _) hstop

variable (f)

@[simp] lemma get_put_ethernet (header : EthernetHeader) :
    (f.put 0 header).get EthernetHeader 0 = header :=
  f.get_put 0 header (by decide)

@[simp] lemma get_put_ipv4 (header : Ipv4Header) :
    (f.put ipOffset header).get Ipv4Header ipOffset = header :=
  f.get_put ipOffset header (by decide)

@[simp] lemma get_put_udp (header : UdpHeader) :
    (f.put transportOffset header).get UdpHeader transportOffset = header :=
  f.get_put transportOffset header (by decide)

@[simp] lemma get_put_tcp (header : TcpHeader) :
    (f.put transportOffset header).get TcpHeader transportOffset = header :=
  f.get_put transportOffset header (by decide)

end Headers

variable (s : Settings) (r : Registry) (f : Frame)

/-! ### Ethernet and IPv4 -/

/-- The frame with its two outer headers turned around, `len` bytes behind them. -/
def addressed (protocol : UInt8) (len : Nat) : Frame :=
  (f.put ipOffset ((f.get Ipv4Header ipOffset).answer protocol len)).put 0
    ((f.get EthernetHeader 0).turnAround s.mac)

variable {protocol : UInt8} {len : Nat}

lemma outgoing?_answerEthernet (h : len ≤ maxFrameLength) :
    (f.answerEthernet s len).outgoing? =
      some ((f.put 0 ((f.get EthernetHeader 0).turnAround s.mac)).slice 0 len) := by
  rw [answerEthernet, if_neg (Nat.not_lt.2 h), Prepared.outgoing?, ← take_bytes]

lemma answerIpv4_of_le (h : len ≤ 1480) :
    f.answerIpv4 s protocol len = ⟨f.addressed s protocol len, .ok (transportOffset + len)⟩ := by
  have hlen : ¬ maxFrameLength < transportOffset + len := show ¬ 1514 < 34 + len by omega
  have heth : (f.put ipOffset ((f.get Ipv4Header ipOffset).answer protocol len)).get
      EthernetHeader 0 = f.get EthernetHeader 0 :=
    (agreeOn_put (.inr (Nat.le_refl ipOffset))).get_ethernet (Nat.le_refl 14)
  rw [answerIpv4, if_neg hlen, answerEthernet, if_neg hlen, heth, addressed]

lemma answerIpv4_of_lt (h : 1480 < len) :
    f.answerIpv4 s protocol len =
      ⟨f, .error (.payloadTooLarge len (maxFrameLength - transportOffset))⟩ := by
  rw [answerIpv4, if_pos (show 1514 < 34 + len by omega)]

lemma outgoing?_answerIpv4 (h : len ≤ 1480) :
    (f.answerIpv4 s protocol len).outgoing? =
      some ((f.addressed s protocol len).slice 0 (transportOffset + len)) := by
  rw [answerIpv4_of_le s f h, Prepared.outgoing?, ← take_bytes]

lemma outgoing?_answerIpv4_of_lt (h : 1480 < len) :
    (f.answerIpv4 s protocol len).outgoing? = none := by
  rw [answerIpv4_of_lt s f h, Prepared.outgoing?]

lemma get_ethernet_addressed :
    (f.addressed s protocol len).get EthernetHeader 0 =
      (f.get EthernetHeader 0).turnAround s.mac :=
  get_put_ethernet _ _

lemma get_ipv4_addressed :
    (f.addressed s protocol len).get Ipv4Header ipOffset =
      (f.get Ipv4Header ipOffset).answer protocol len := by
  rw [addressed, (agreeOn_put (.inl (Nat.le_refl 14))).get_eq (Nat.le_refl 14) (Nat.le_refl 34),
    get_put_ipv4]

lemma agreeOn_addressed (stop : Nat) :
    AgreeOn transportOffset stop (f.addressed s protocol len) f :=
  (agreeOn_put (.inl (by decide))).trans (agreeOn_put (.inl (by decide)))

/-! ### UDP -/

lemma agreeOn_padEven {start stop off : Nat} (h : stop ≤ off + len) :
    AgreeOn start stop (f.padEven off len) f := by
  unfold padEven
  split
  · exact .refl _ _ _
  · exact agreeOn_write (.inr h)

/-- The header of a datagram of `len` bytes of data that answers the one in the frame. -/
def datagramHeader (len : Nat) (checksum : UInt16) : UdpHeader :=
  { (f.get UdpHeader transportOffset).swapPorts with
    length := .ofNat (8 + evenLength len), checksum }

/-- The frame with a datagram of `len` bytes of data in it, its checksum field zero. -/
def unsummed (len : Nat) : Frame :=
  (f.padEven udpDataOffset len).put transportOffset (f.datagramHeader len 0)

/-- The checksum of that datagram. -/
def datagramSum (len : Nat) : UInt16 :=
  udpChecksum (f.get Ipv4Header ipOffset).src (f.get Ipv4Header ipOffset).dst
    ((f.unsummed len).slice transportOffset (transportOffset + (8 + evenLength len)))

/-- The frame with a datagram of `len` bytes of data in it, as it goes out. -/
def datagram (len : Nat) : Frame :=
  if s.fillUdpChecksums then
    (f.unsummed len).write (transportOffset + 6) (ofWord16 (f.datagramSum len))
  else
    f.unsummed len

lemma agreeOn_unsummed : AgreeOn 0 transportOffset (f.unsummed len) f :=
  (agreeOn_put (.inr (Nat.le_refl _))).trans
    (agreeOn_padEven f (show 34 ≤ 42 + len by omega))

lemma answerUdp_eq :
    f.answerUdp s len = (f.datagram s len).answerIpv4 s IpProtocol.udp (8 + evenLength len) := by
  have hpad : AgreeOn 0 udpDataOffset (f.padEven udpDataOffset len) f :=
    agreeOn_padEven f (Nat.le_add_right udpDataOffset len)
  have hudp := hpad.get_udp (Nat.le_refl 42)
  have hip := (@agreeOn_unsummed f len).get_ipv4 (Nat.le_refl 34)
  unfold unsummed datagramHeader at hip
  simp only [answerUdp, datagram, datagramSum, unsummed, datagramHeader, hudp, hip]

lemma answerUdp_of_le (h : len ≤ 1471) :
    f.answerUdp s len =
      ⟨(f.datagram s len).addressed s IpProtocol.udp (8 + evenLength len),
        .ok (transportOffset + (8 + evenLength len))⟩ := by
  have heven := evenLength_le len
  have hmod := evenLength_mod_two len
  rw [answerUdp_eq, answerIpv4_of_le _ _ (by omega)]

lemma outgoing?_answerUdp (h : len ≤ 1471) :
    (f.answerUdp s len).outgoing? =
      some (((f.datagram s len).addressed s IpProtocol.udp (8 + evenLength len)).slice 0
        (transportOffset + (8 + evenLength len))) := by
  rw [answerUdp_of_le s f h, Prepared.outgoing?, ← take_bytes]

lemma get_unsummed :
    (f.unsummed len).get UdpHeader transportOffset = f.datagramHeader len 0 :=
  get_put_udp _ _

lemma datagram_of_fill (h : s.fillUdpChecksums = true) :
    f.datagram s len =
      (f.padEven udpDataOffset len).put transportOffset
        (f.datagramHeader len (f.datagramSum len)) := by
  rw [datagram, if_pos h]
  exact write_write_inside (Nat.le_refl 8)

lemma datagram_of_not_fill (h : s.fillUdpChecksums = false) :
    f.datagram s len = f.unsummed len := by
  rw [datagram, h]
  rfl

lemma agreeOn_datagram : AgreeOn 0 transportOffset (f.datagram s len) f := by
  unfold datagram
  split
  · exact (agreeOn_write (.inr (by omega))).trans f.agreeOn_unsummed
  · exact f.agreeOn_unsummed

/-- The ports are turned around, the length is that of the padded datagram, and the checksum field
is zero or filled in. -/
lemma get_udp_datagram :
    (f.datagram s len).get UdpHeader transportOffset =
      f.datagramHeader len (if s.fillUdpChecksums then f.datagramSum len else 0) := by
  cases h : s.fillUdpChecksums
  · rw [datagram_of_not_fill s f h, get_unsummed]
    rfl
  · rw [datagram_of_fill s f h, get_put_udp]
    rfl

/-- With the flag set, the padded datagram checks under the addresses of the packet. -/
lemma sum_datagram (h : s.fillUdpChecksums = true) :
    pseudoHeaderChecksum (f.get Ipv4Header ipOffset).src (f.get Ipv4Header ipOffset).dst
      IpProtocol.udp
      ((f.datagram s len).slice transportOffset (transportOffset + (8 + evenLength len))) = 0 := by
  have hzero : ((f.unsummed len).slice transportOffset
      (transportOffset + (8 + evenLength len))).word16At 6 = 0 := by
    have hdec : Wire.decode ((f.unsummed len).slice transportOffset
        (transportOffset + (8 + evenLength len))) 0 = f.datagramHeader len 0 :=
      (decode_slice _ (show 0 + 8 ≤ 34 + (8 + evenLength len) - 34 by omega)).trans f.get_unsummed
    exact congrArg UdpHeader.checksum hdec
  rw [datagram, if_pos h, slice_write (by omega), Nat.add_sub_cancel_left]
  refine udpChecksum_fill rfl ?_ hzero _ _
  rw [length_slice]
  show 6 + 2 ≤ min (34 + (8 + evenLength len) - 34) (1536 - 34)
  omega

/-! ### TCP -/

/-- The frame with the checksum of a segment of `n` bytes in its field. -/
def summed (n : Nat) : Frame :=
  let g := f.write (transportOffset + 16) (ofWord16 0)
  g.write (transportOffset + 16)
    (ofWord16 (pseudoHeaderChecksum (f.get Ipv4Header ipOffset).src
      (f.get Ipv4Header ipOffset).dst IpProtocol.tcp
      (g.slice transportOffset (transportOffset + n))))

lemma finishTcp_of_le {headerLength dataLength : Nat} (h : headerLength + dataLength ≤ 1480) :
    f.finishTcp s headerLength dataLength =
      (f.summed (headerLength + dataLength)).answerIpv4 s IpProtocol.tcp
        (headerLength + dataLength) := by
  rw [finishTcp, if_neg (show ¬ 1514 < 34 + (headerLength + dataLength) by omega)]
  rfl

lemma outgoing?_finishTcp {headerLength dataLength : Nat}
    (h : headerLength + dataLength ≤ 1480) :
    (f.finishTcp s headerLength dataLength).outgoing? =
      some (((f.summed (headerLength + dataLength)).addressed s IpProtocol.tcp
        (headerLength + dataLength)).slice 0
          (transportOffset + (headerLength + dataLength))) := by
  rw [finishTcp_of_le s f h, outgoing?_answerIpv4 _ _ h]

lemma agreeOn_summed {start stop n : Nat} (h : transportOffset + 18 ≤ start ∨
    stop ≤ transportOffset + 16) : AgreeOn start stop (f.summed n) f :=
  (agreeOn_write h).trans (agreeOn_write h)

/-- A word written into the checksum field changes the checksum and nothing else. -/
lemma get_tcp_write_sum (sum : UInt16) :
    (f.write (transportOffset + 16) (ofWord16 sum)).get TcpHeader transportOffset =
      { f.get TcpHeader transportOffset with checksum := sum } := by
  have hput : f.put transportOffset (f.get TcpHeader transportOffset) = f :=
    f.put_get TcpHeader transportOffset
  have hwrite : f.write (transportOffset + 16) (ofWord16 sum) =
      f.put transportOffset { f.get TcpHeader transportOffset with checksum := sum } := by
    conv => lhs; rw [← hput]
    exact write_write_inside (show 18 ≤ 20 by decide)
  rw [hwrite, get_put_tcp]

lemma get_tcp_summed (n : Nat) :
    (f.summed n).get TcpHeader transportOffset =
      { f.get TcpHeader transportOffset with
        checksum := ((f.summed n).get TcpHeader transportOffset).checksum } := by
  simp only [summed, get_tcp_write_sum]

lemma sum_summed {n : Nat} (h1 : 18 ≤ n) (h2 : n ≤ 1480) :
    pseudoHeaderChecksum (f.get Ipv4Header ipOffset).src (f.get Ipv4Header ipOffset).dst
      IpProtocol.tcp ((f.summed n).slice transportOffset (transportOffset + n)) = 0 := by
  have hlen : 16 + 2 ≤ min (34 + n - 34) (1536 - 34) := by omega
  rw [summed, slice_write (Nat.le_add_right ..), Nat.add_sub_cancel_left]
  refine pseudoHeaderChecksum_fill rfl (by rw [length_slice]; exact hlen) ?_ _ _ _
  -- the field has been cleared before
  rw [slice_write (Nat.le_add_right ..), Nat.add_sub_cancel_left]
  exact word16At_overwrite (by rw [length_slice]; exact hlen) 0

/-- The frame with a segment of `len` bytes of data in it, its checksum field still to be filled. -/
def segment (len : Nat) : Frame :=
  let header := f.get TcpHeader transportOffset
  (f.padEven (transportOffset + header.dataOffset) len).put transportOffset
    (if r.isFramed header.srcPort then header else header.advanceAck len)

lemma answerTcp_of_le (h : 20 ≤ (f.get TcpHeader transportOffset).dataOffset) :
    f.answerTcp s r len =
      (f.segment r len).finishTcp s (f.get TcpHeader transportOffset).dataOffset
        (evenLength len) := by
  rw [answerTcp, if_neg (by omega)]
  rfl

lemma answerTcp_of_lt {offset : Nat}
    (hoff : (f.get TcpHeader transportOffset).dataOffset = offset)
    (h1 : 20 ≤ offset) (h2 : transportOffset + offset + len < maxFrameLength) :
    f.answerTcp s r len =
      ⟨((f.segment r len).summed (offset + evenLength len)).addressed s IpProtocol.tcp
          (offset + evenLength len),
        .ok (transportOffset + (offset + evenLength len))⟩ := by
  have heven := evenLength_le len
  have h3 : 34 + offset + len < 1514 := h2
  rw [answerTcp_of_le s r f (by rw [hoff]; exact h1), hoff, finishTcp_of_le _ _ (by omega),
    answerIpv4_of_le _ _ (by omega)]

lemma outgoing?_answerTcp {offset : Nat}
    (hoff : (f.get TcpHeader transportOffset).dataOffset = offset)
    (h1 : 20 ≤ offset) (h2 : transportOffset + offset + len < maxFrameLength) :
    (f.answerTcp s r len).outgoing? =
      some ((((f.segment r len).summed (offset + evenLength len)).addressed s IpProtocol.tcp
        (offset + evenLength len)).slice 0 (transportOffset + (offset + evenLength len))) := by
  rw [answerTcp_of_lt s r f hoff h1 h2, Prepared.outgoing?, ← take_bytes]

lemma agreeOn_segment : AgreeOn 0 transportOffset (f.segment r len) f :=
  (agreeOn_put (.inr (Nat.le_refl _))).trans
    (agreeOn_padEven f (show 34 ≤ 34 + (f.get TcpHeader 34).dataOffset + len by omega))

end Frame

end PacketHost
