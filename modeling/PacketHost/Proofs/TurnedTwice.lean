import PacketHost.Proofs.Acknowledging
import PacketHost.Proofs.Chunks

/-!
An answer to an answer.

An answer with data is given here as a string of bytes (`answerTo`), made from the bytes of the
record that is answered. As it stands in that record's place, it can be answered itself. What has
been turned around is then turned around once more, and the acknowledgment number moves on once more
(`answerTo_answerTo`). So the second frame is another one, unless there was nothing to turn around
and nothing to acknowledge (`resent_eq_iff`).
-/

namespace PacketHost

open Bytes Checksum Received

/-! ### Addresses and ports in exchanged places -/

/-- The order of the words is nothing to their sum. -/
lemma Ipv4Header.wordSum_swapAddresses (h : Ipv4Header) :
    wordSum (Wire.encode h.swapAddresses) = wordSum (Wire.encode h) := by
  simp only [Wire.encode, swapAddresses, Ipv4Addr.octets, ofWord16, List.cons_append,
    List.nil_append, wordSum, word16_highByte_lowByte]
  omega

lemma Ipv4Header.withChecksum_swapAddresses (h : Ipv4Header) :
    h.swapAddresses.withChecksum = h.withChecksum.swapAddresses := by
  have hsum : PacketHost.checksum (Wire.encode { h.swapAddresses with checksum := 0 }) =
      PacketHost.checksum (Wire.encode { h with checksum := 0 }) := by
    rw [← UInt16.toNat_inj, toNat_checksum, toNat_checksum]
    exact congrArg (fun n => 65535 - onesSum n)
      (wordSum_swapAddresses { h with checksum := 0 })
  rw [withChecksum, hsum]
  rfl

lemma UdpHeader.wordSum_swapPorts (h : UdpHeader) :
    wordSum (Wire.encode h.swapPorts) = wordSum (Wire.encode h) := by
  simp only [Wire.encode, swapPorts, ofWord16, List.cons_append, List.nil_append, wordSum]
  omega

lemma udpChecksum_swapPorts (src dst : Ipv4Addr) (header : UdpHeader) (rest : Bytes) :
    udpChecksum src dst (Wire.encode header.swapPorts ++ rest) =
      udpChecksum dst src (Wire.encode header ++ rest) := by
  have hsum : pseudoHeaderChecksum dst src IpProtocol.udp (Wire.encode header.swapPorts ++ rest) =
      pseudoHeaderChecksum dst src IpProtocol.udp (Wire.encode header ++ rest) := by
    have heven (h : UdpHeader) : (Wire.encode h).length % 2 = 0 := by
      rw [LawfulWire.length_encode]
      rfl
    rw [← UInt16.toNat_inj, toNat_pseudoHeaderChecksum, toNat_pseudoHeaderChecksum, pseudoSum,
      pseudoSum, wordSum_append (heven _), wordSum_append (heven _), header.wordSum_swapPorts]
    rfl
  rw [udpChecksum, udpChecksum, pseudoHeaderChecksum_comm, hsum]

/-- A datagram and the one that answers it with the same data differ in their ports. -/
lemma exists_datagramTo (s : Settings) (here there : Ipv4Addr) (p q : UInt16) (data : Bytes) :
    ∃ header : UdpHeader,
      header.srcPort = p ∧ header.dstPort = q ∧
      datagramTo { s with ip := here } there p q data = Wire.encode header ++ padded data ∧
      datagramTo { s with ip := there } here q p data =
        Wire.encode header.swapPorts ++ padded data := by
  have hsum := udpChecksum_swapPorts here there
    ⟨p, q, .ofNat (8 + (padded data).length), 0⟩ (padded data)
  refine ⟨_, rfl, rfl, rfl, ?_⟩
  unfold datagramTo
  dsimp only
  rw [← hsum]
  rfl

/-! ### Frames taken apart -/

namespace Bytes

variable {α : Type} [Wire α] [LawfulWire α] {a : Bytes} {off : Nat}

lemma drop_eq_encode (h : off + Wire.width α ≤ a.length) :
    a.drop off = Wire.encode (Wire.decode a off : α) ++ a.drop (off + Wire.width α) := by
  rw [← Wire.slice_eq_encode h, slice, Nat.add_sub_cancel_left, ← List.drop_drop,
    List.take_append_drop]

lemma decode_of_drop {header : α} {rest : Bytes} (h : a.drop off = Wire.encode header ++ rest) :
    Wire.decode a off = header := by
  have hfront : (Wire.decode (a.drop off) 0 : α) = Wire.decode a off :=
    Wire.decode_congr fun i _ => by rw [byteAt_drop, Nat.zero_add]
  rw [← hfront, h]
  exact decode_append (x := []) header rfl

lemma drop_of_drop {header : α} {rest : Bytes} (h : a.drop off = Wire.encode header ++ rest) :
    a.drop (off + Wire.width α) = rest := by
  rw [← List.drop_drop, h, ← LawfulWire.length_encode header, List.drop_left]

lemma encode_append_inj {header header' : α} {rest rest' : Bytes} :
    Wire.encode header ++ rest = Wire.encode header' ++ rest' ↔
      header = header' ∧ rest = rest' := by
  constructor
  · intro h
    obtain ⟨hheader, hrest⟩ := List.append_inj h (by simp [LawfulWire.length_encode])
    refine ⟨?_, hrest⟩
    rw [← LawfulWire.decode_encode header, hheader, LawfulWire.decode_encode]
  · rintro ⟨rfl, rfl⟩
    rfl

/-- A frame with a packet in it, header by header. -/
lemma eq_outer_append (h : transportOffset ≤ a.length) :
    a = Wire.encode (ethernet a) ++ (Wire.encode (ip a) ++ a.drop transportOffset) := by
  have hethernet : a.drop 0 = Wire.encode (ethernet a) ++ a.drop ipOffset :=
    drop_eq_encode (Nat.le_trans (by decide) h)
  have hip : a.drop ipOffset = Wire.encode (ip a) ++ a.drop transportOffset := drop_eq_encode h
  rw [← hip, ← hethernet, List.drop_zero]

end Bytes

/-! ### Answers -/

def Transport.protocol : Transport → UInt8
  | .udp => IpProtocol.udp
  | .tcp => IpProtocol.tcp

/-- A segment with its checksum. -/
def summedSegment (src dst : Ipv4Addr) (header : TcpHeader) (rest : Bytes) : Bytes :=
  let sum := pseudoHeaderChecksum src dst IpProtocol.tcp
    (Wire.encode { header with checksum := 0 } ++ rest)
  Wire.encode { header with checksum := sum } ++ rest

namespace Received

variable (s : Settings) (r : Registry) (data b : Bytes)

/-- The header that data is sent under when this segment stands turned around. -/
def ackedHeader : TcpHeader :=
  if r.isFramed (tcp b).srcPort then tcp b else (tcp b).advanceAck data.length

/-- What data is sent in. -/
def answerPayload : Transport → Bytes
  | .udp =>
    datagramTo { s with ip := (ip b).dst } (ip b).src (udp b).dstPort (udp b).srcPort data
  | .tcp =>
    summedSegment (ip b).src (ip b).dst (ackedHeader r data b) (tcpOptions b ++ padded data)

/-- The frame with data that answers the record in these bytes, whether or not it was for this
host. -/
def answerTo (t : Transport) : Bytes :=
  packet { s with ip := (ip b).dst } (ethernet b).src t.protocol (ip b).src (ip b).id
    (answerPayload s r data b t)

def resentPayload : Transport → Bytes
  | .udp => Wire.encode (udp b).swapPorts ++ b.drop udpDataOffset
  | .tcp =>
    summedSegment (ip b).src (ip b).dst (ackedHeader r data b) (b.drop (transportOffset + 20))

/-- A frame with data turned around once more. -/
def resent (t : Transport) : Bytes :=
  Wire.encode ((ethernet b).turnAround s.mac) ++
    (Wire.encode (ip b).swapAddresses ++ resentPayload r data b t)

/-- There is nothing in this frame to turn around, and nothing to acknowledge. -/
@[mk_iff] structure Symmetric (t : Transport) : Prop where
  hw : (ethernet b).dst = s.mac
  ip : (ip b).src = (ip b).dst
  udp : t = .udp → (udp b).srcPort = (udp b).dstPort
  tcp : t = .tcp → r.isFramed (tcp b).srcPort = true ∨ data = []

end Received

/-! ### An answer to an answer -/

lemma drop_packet (s : Settings) (hw : MacAddr) (protocol : UInt8) (peer : Ipv4Addr) (id : UInt16)
    (payload : Bytes) : (packet s hw protocol peer id payload).drop transportOffset = payload := by
  rw [packet, ← List.append_assoc]
  exact List.drop_left' rfl

lemma length_summedSegment (src dst : Ipv4Addr) (header : TcpHeader) (rest : Bytes) :
    (summedSegment src dst header rest).length = 20 + rest.length := by
  rw [summedSegment, List.length_append, LawfulWire.length_encode]
  rfl

lemma summedSegment_comm (src dst : Ipv4Addr) (header : TcpHeader) (rest : Bytes) :
    summedSegment src dst header rest = summedSegment dst src header rest := by
  rw [summedSegment, pseudoHeaderChecksum_comm, summedSegment]

/-- The checksum that a header comes with is nothing to its segment. -/
lemma summedSegment_inj {src dst : Ipv4Addr} {header header' : TcpHeader} {rest : Bytes} :
    summedSegment src dst header rest = summedSegment src dst header' rest ↔
      { header with checksum := 0 } = { header' with checksum := 0 } := by
  constructor
  · intro h
    exact congrArg (fun k : TcpHeader => { k with checksum := 0 }) (encode_append_inj.1 h).1
  · intro h
    have hcleared := congrArg (fun k => summedSegment src dst k rest) h
    exact hcleared

lemma EthernetHeader.turnAround_eq_self_iff {h : EthernetHeader} {self : MacAddr}
    (hsrc : h.src = self) : h.turnAround self = h ↔ h.dst = self := by
  obtain ⟨dst, src, etherType⟩ := h
  subst hsrc
  simp [turnAround, eq_comm]

lemma Ipv4Header.swapAddresses_eq_self_iff (h : Ipv4Header) :
    h.swapAddresses = h ↔ h.src = h.dst := by
  obtain ⟨_, _, _, _, _, _, _, _, src, dst⟩ := h
  simp [swapAddresses, eq_comm]

lemma UdpHeader.swapPorts_eq_self_iff (h : UdpHeader) :
    h.swapPorts = h ↔ h.srcPort = h.dstPort := by
  obtain ⟨srcPort, dstPort, _, _⟩ := h
  simp [swapPorts, eq_comm]

/-- No payload is so long that the acknowledgment number would come round. -/
lemma TcpHeader.ack_advanceAck_eq_iff (h : TcpHeader) {n : Nat} (hn : n < UInt32.size) :
    (h.advanceAck n).ack = h.ack ↔ n = 0 := by
  have hle := h.ack.toNat_lt
  rw [← UInt32.toNat_inj, advanceAck, UInt32.toNat_add, UInt32.toNat_ofNat_of_lt' hn]
  change n < 4294967296 at hn
  omega

namespace Received

variable (s : Settings) (r : Registry) (data b : Bytes) (t : Transport)

/-- The headers of the record that is answered are all there. -/
structure Answerable : Prop where
  datagram_le : t = .udp → udpDataOffset ≤ b.length
  offset_ge : t = .tcp → 20 ≤ (tcp b).dataOffset
  offset_le : t = .tcp → transportOffset + (tcp b).dataOffset ≤ b.length

lemma ethernet_answerTo : ethernet (answerTo s r data b t) =
    ⟨(ethernet b).src, s.mac, EtherType.ipv4⟩ :=
  ethernet_packet

lemma ip_answerTo : ip (answerTo s r data b t) =
    (Ipv4Header.outgoing t.protocol (ip b).id (ip b).dst (ip b).src
      (answerPayload s r data b t).length).withChecksum :=
  ip_packet

lemma drop_answerTo :
    (answerTo s r data b t).drop transportOffset = answerPayload s r data b t :=
  drop_packet ..

/-- The sum of a datagram is that of the one that answers it, so only the ports tell them apart. -/
lemma answerPayload_answerTo_udp :
    answerPayload s r data (answerTo s r data b .udp) .udp =
      resentPayload r data (answerTo s r data b .udp) .udp := by
  obtain ⟨header, hsrc, hdst, hfirst, hsecond⟩ :=
    exists_datagramTo s (ip b).dst (ip b).src (udp b).dstPort (udp b).srcPort data
  have hdrop : (answerTo s r data b .udp).drop transportOffset =
      Wire.encode header ++ padded data := by
    rw [drop_answerTo]
    exact hfirst
  have hudp : udp (answerTo s r data b .udp) = header := decode_of_drop hdrop
  have hdata : (answerTo s r data b .udp).drop udpDataOffset = padded data := drop_of_drop hdrop
  rw [answerPayload, resentPayload, ip_answerTo, hudp, hdata, hsrc, hdst]
  exact hsecond

lemma offsetAndFlags_ackedHeader :
    (ackedHeader r data b).offsetAndFlags = (tcp b).offsetAndFlags := by
  unfold ackedHeader
  split <;> rfl

variable {b}

lemma length_tcpOptions (hb : Answerable b .tcp) :
    (tcpOptions b).length = (tcp b).dataOffset - 20 := by
  have hle : 34 + (tcp b).dataOffset ≤ b.length := hb.offset_le rfl
  rw [tcpOptions, length_slice]
  show min (34 + (tcp b).dataOffset - 54) (b.length - 54) = (tcp b).dataOffset - 20
  omega

lemma tcp_answerTo : ∃ sum, tcp (answerTo s r data b .tcp) =
    { ackedHeader r data b with checksum := sum } :=
  ⟨_, decode_of_drop (drop_answerTo s r data b .tcp)⟩

lemma drop_answerTo_tcp : (answerTo s r data b .tcp).drop (transportOffset + 20) =
    tcpOptions b ++ padded data :=
  drop_of_drop (drop_answerTo s r data b .tcp)

lemma dataOffset_answerTo :
    (tcp (answerTo s r data b .tcp)).dataOffset = (tcp b).dataOffset := by
  obtain ⟨sum, htcp⟩ := tcp_answerTo s r data (b := b)
  rw [htcp]
  exact TcpHeader.dataOffset_congr (offsetAndFlags_ackedHeader r data b)

/-- The options go out as they have come in. -/
lemma tcpOptions_answerTo (hb : Answerable b .tcp) :
    tcpOptions (answerTo s r data b .tcp) = tcpOptions b := by
  have hlen : transportOffset + (tcp b).dataOffset - (transportOffset + 20) =
      (tcpOptions b).length := by
    rw [length_tcpOptions hb, Nat.add_sub_add_left]
  rw [tcpOptions, dataOffset_answerTo, slice, drop_answerTo_tcp, hlen, List.take_left]

/-- A segment is put together from what has been sent before, but for the acknowledgment number. -/
lemma answerPayload_answerTo_tcp (hb : Answerable b .tcp) :
    answerPayload s r data (answerTo s r data b .tcp) .tcp =
      resentPayload r data (answerTo s r data b .tcp) .tcp := by
  rw [answerPayload, resentPayload, tcpOptions_answerTo s r data hb, drop_answerTo_tcp]

variable {t}

lemma answerPayload_answerTo (hb : Answerable b t) :
    answerPayload s r data (answerTo s r data b t) t =
      resentPayload r data (answerTo s r data b t) t := by
  cases t with
  | udp => exact answerPayload_answerTo_udp s r data b
  | tcp => exact answerPayload_answerTo_tcp s r data hb

lemma length_resentPayload (hb : Answerable b t) :
    (resentPayload r data (answerTo s r data b t) t).length =
      (answerPayload s r data b t).length := by
  rw [← answerPayload_answerTo s r data hb]
  cases t with
  | udp => simp [answerPayload, datagramTo, LawfulWire.length_encode]
  | tcp =>
    rw [answerPayload, answerPayload, tcpOptions_answerTo s r data hb, length_summedSegment,
      length_summedSegment]

/-- **The same data in answer to an answer** is the answer turned around once more. -/
lemma answerTo_answerTo (hb : Answerable b t) :
    answerTo s r data (answerTo s r data b t) t = resent s r data (answerTo s r data b t) t := by
  have hpayload := answerPayload_answerTo s r data hb
  have hip := ip_answerTo s r data b t
  have hswapped : (ip (answerTo s r data b t)).swapAddresses =
      (Ipv4Header.outgoing t.protocol (ip b).id (ip b).src (ip b).dst
        (answerPayload s r data b t).length).withChecksum := by
    rw [hip, ← Ipv4Header.withChecksum_swapAddresses]
    rfl
  have hethernet : (ethernet (answerTo s r data b t)).turnAround s.mac =
      ⟨(ethernet (answerTo s r data b t)).src, s.mac, EtherType.ipv4⟩ := by
    rw [ethernet_answerTo]
    rfl
  rw [resent, hethernet, hswapped, ← length_resentPayload s r data hb]
  -- the first answer is a record like any other from here on
  generalize answerTo s r data b t = a at *
  rw [answerTo, packet, hpayload, hip]
  rfl

lemma length_resent (hb : Answerable b t) :
    (resent s r data (answerTo s r data b t) t).length = (answerTo s r data b t).length := by
  rw [← answerTo_answerTo s r data hb, answerTo, length_packet, answerPayload_answerTo s r data hb,
    length_resentPayload s r data hb, answerTo, length_packet]

variable {s r data}

lemma length_le_answerTo : transportOffset ≤ (answerTo s r data b t).length := by
  rw [answerTo, length_packet]
  exact Nat.le_add_right _ _

lemma length_answerTo_udp (s : Settings) (r : Registry) (data b : Bytes) :
    udpDataOffset ≤ (answerTo s r data b .udp).length := by
  simp only [answerTo, answerPayload, datagramTo, length_packet, List.length_append,
    LawfulWire.length_encode]
  show 42 ≤ 34 + (8 + (padded data).length)
  omega

/-- An answer can be answered. -/
lemma Answerable.answerTo (hb : Answerable b t) : Answerable (answerTo s r data b t) t := by
  refine ⟨?_, ?_, ?_⟩
  · rintro rfl
    exact length_answerTo_udp s r data b
  · rintro rfl
    rw [dataOffset_answerTo]
    exact hb.offset_ge rfl
  · rintro rfl
    have hge := hb.offset_ge rfl
    rw [dataOffset_answerTo, Received.answerTo, answerPayload, length_packet, length_summedSegment,
      List.length_append, length_tcpOptions hb]
    show 34 + (tcp b).dataOffset ≤ 34 + (20 + ((tcp b).dataOffset - 20 + (padded data).length))
    omega

lemma resentPayload_eq_iff_udp (a : Bytes) (h : udpDataOffset ≤ a.length) :
    resentPayload r data a .udp = a.drop transportOffset ↔ (udp a).srcPort = (udp a).dstPort := by
  have hudp : a.drop transportOffset = Wire.encode (udp a) ++ a.drop udpDataOffset :=
    drop_eq_encode h
  rw [resentPayload, hudp, encode_append_inj, UdpHeader.swapPorts_eq_self_iff,
    and_iff_left rfl]

/-- Only data that is counted makes a difference to the header. -/
lemma ackedHeader_eq_iff (a : Bytes) (hlen : data.length < UInt32.size) :
    { ackedHeader r data a with checksum := 0 } = { tcp a with checksum := 0 } ↔
      r.isFramed (tcp a).srcPort = true ∨ data = [] := by
  rw [ackedHeader, ← List.length_eq_zero_iff, ← (tcp a).ack_advanceAck_eq_iff hlen]
  split
  next hframed => simp [hframed]
  next hframed => simp [hframed, TcpHeader.advanceAck]

lemma resentPayload_eq_iff_tcp (hlen : data.length < UInt32.size) :
    resentPayload r data (answerTo s r data b .tcp) .tcp =
        (answerTo s r data b .tcp).drop transportOffset ↔
      r.isFramed (tcp (answerTo s r data b .tcp)).srcPort = true ∨ data = [] := by
  obtain ⟨sum, htcp⟩ := tcp_answerTo s r data (b := b)
  have hcleared : { ackedHeader r data b with checksum := 0 } =
      { tcp (answerTo s r data b .tcp) with checksum := 0 } := by
    rw [htcp]
  have hsrc : (ip (answerTo s r data b .tcp)).src = (ip b).dst := by
    rw [ip_answerTo]
    rfl
  have hdst : (ip (answerTo s r data b .tcp)).dst = (ip b).src := by
    rw [ip_answerTo]
    rfl
  rw [drop_answerTo, resentPayload, answerPayload, drop_answerTo_tcp, hsrc, hdst,
    summedSegment_comm, summedSegment_inj, hcleared, ackedHeader_eq_iff _ hlen]

/-- An answer that is turned around is another frame, unless nothing is there to be turned. -/
lemma resent_eq_iff (hlen : data.length < UInt32.size) :
    resent s r data (answerTo s r data b t) t = answerTo s r data b t ↔
      Symmetric s r data (answerTo s r data b t) t := by
  have hpayload : resentPayload r data (answerTo s r data b t) t =
      (answerTo s r data b t).drop transportOffset ↔
        (t = .udp → (udp (answerTo s r data b t)).srcPort = (udp (answerTo s r data b t)).dstPort) ∧
        (t = .tcp → r.isFramed (tcp (answerTo s r data b t)).srcPort = true ∨ data = []) := by
    cases t with
    | udp =>
      rw [resentPayload_eq_iff_udp _ (length_answerTo_udp ..)]
      simp
    | tcp =>
      rw [resentPayload_eq_iff_tcp hlen]
      simp
  have hsrc : (ethernet (answerTo s r data b t)).src = s.mac := by
    rw [ethernet_answerTo]
  conv => lhs; rhs; rw [eq_outer_append (length_le_answerTo (s := s) (r := r))]
  rw [resent, encode_append_inj, encode_append_inj, EthernetHeader.turnAround_eq_self_iff hsrc,
    Ipv4Header.swapAddresses_eq_self_iff, hpayload, symmetric_iff]

end Received

end PacketHost
