import PacketHost.Proofs.Guarded.Sums
import PacketHost.Proofs.Outgoing

/-!
Answers within the buffer.

The send path step by step, with every part of the frame that it reads or writes. A layer that
checks the length of what it is given can do no harm with any. Two layers rely on their caller:
padding needs room for a byte behind the data, and the transport layers read as much as they are
told.
-/

namespace PacketHost

open Bytes

lemma Bytes.decode_slice {α : Type} [Wire α] [LawfulWire α] {b : Bytes} {start stop off : Nat}
    (h : off + Wire.width α ≤ stop - start) :
    (Wire.decode (slice b start stop) off : α) = Wire.decode b (start + off) :=
  Wire.decode_congr fun i hi => by
    rw [byteAt_slice, if_pos (by omega), Nat.add_assoc]

namespace Guarded

variable (s : Settings) (r : Registry) (f : Frame)

def answerEthernet (len : Nat) : Guarded Prepared :=
  if maxFrameLength < len then
    pure ⟨f, .error (.payloadTooLarge len maxFrameLength)⟩
  else do
    let header : EthernetHeader ← recordAt f 0
    let f ← putRecord f 0 frameSize (header.turnAround s.mac)
    -- what is handed to the device
    let _ ← part f 0 len
    return ⟨f, .ok len⟩

def answerIpv4 (protocol : UInt8) (len : Nat) : Guarded Prepared :=
  if maxFrameLength < transportOffset + len then do
    let capacity ← sub maxFrameLength transportOffset
    return ⟨f, .error (.payloadTooLarge len capacity)⟩
  else do
    -- the limit that would be reported if there were no room for a header
    let _ ← sub frameSize ipOffset
    let header : Ipv4Header ← recordAt f ipOffset
    let totalLength ← word16 (20 + len)
    let header ← withChecksum
      { header.swapAddresses with
        versionIhl := Ipv4Header.plainVersionIhl, tos := 0, totalLength, flagsFragment := 0,
        ttl := Ipv4Header.defaultTtl, protocol }
    let f ← putRecord f ipOffset transportOffset header
    answerEthernet s f (transportOffset + len)

def padEven (start len : Nat) : Guarded (Frame × Nat) :=
  if len % 2 = 0 then pure (f, len)
  else do
    let f ← setIn f (start + len) 0
    return (f, len + 1)

/-- One of the two addresses in a packet's header, read without the rest of it. -/
def headerAddress (header : Bytes) (start : Nat) : Guarded Ipv4Addr := do
  record (← slice header start (start + 4))

/-- The two addresses of the packet in the buffer. -/
def stagedAddresses : Guarded (Ipv4Addr × Ipv4Addr) := do
  let header ← part f (← sub transportOffset 20) transportOffset
  let src ← headerAddress header 12
  let dst ← headerAddress header 16
  return (src, dst)

/-- Fills in the checksum of a datagram of `n` bytes. -/
def fillUdp (n : Nat) : Guarded Frame :=
  if s.fillUdpChecksums then do
    let (src, dst) ← stagedAddresses f
    let sum ← udpChecksum src dst (← part f transportOffset (transportOffset + n))
    storeTo f (transportOffset + 6) (transportOffset + 8) (ofWord16 sum)
  else
    pure f

def answerUdp (len : Nat) : Guarded Prepared := do
  let (f, len) ← padEven f udpDataOffset len
  let header : UdpHeader ← recordAt f transportOffset
  let length ← word16 (8 + len)
  let f ← putRecord f transportOffset udpDataOffset
    { header.swapPorts with length, checksum := 0 }
  let f ← fillUdp s f (8 + len)
  answerIpv4 s f IpProtocol.udp (8 + len)

def finishTcp (headerLength dataLength : Nat) : Guarded Prepared :=
  let n := headerLength + dataLength
  if maxFrameLength < transportOffset + n then do
    let capacity ← sub maxFrameLength transportOffset
    return ⟨f, .error (.payloadTooLarge n capacity)⟩
  else do
    let (src, dst) ← stagedAddresses f
    let f ← storeTo f (transportOffset + 16) (transportOffset + 18) (ofWord16 0)
    let sum ← pseudoHeaderChecksum src dst IpProtocol.tcp
      (← part f transportOffset (transportOffset + n))
    let f ← storeTo f (transportOffset + 16) (transportOffset + 18) (ofWord16 sum)
    answerIpv4 s f IpProtocol.tcp n

/-- Where the data of the segment in the buffer starts. -/
def stagedDataOffset : Guarded (Except NetError Nat) := do
  let header : TcpHeader ← recordAt f transportOffset
  if header.dataOffset < 20 then
    return .error (.sizeMismatch header.dataOffset 20)
  else
    return .ok (transportOffset + header.dataOffset)

def answerTcp (len : Nat) : Guarded Prepared := do
  match ← stagedDataOffset f with
  | .error e => return ⟨f, .error e⟩
  | .ok start =>
    let offset ← sub start transportOffset
    let (f, n) ← padEven f start len
    let header : TcpHeader ← recordAt f transportOffset
    let header := if r.isFramed header.srcPort then header else header.advanceAck len
    let f ← putRecord f transportOffset frameSize header
    finishTcp s f offset n

def holdsPacket (protocol : UInt8) : Guarded Bool := do
  let eth : EthernetHeader ← recordAt f 0
  let ip : Ipv4Header ← recordAt f ipOffset
  return eth.etherType == EtherType.ipv4 && ip.isPlain && ip.protocol == protocol

def sendUdp (data : Bytes) : Guarded Prepared := do
  if (← holdsPacket f IpProtocol.udp) = false then
    return ⟨f, .error (.protocolMismatch .udp)⟩
  else
    let capacity ← sub (← sub maxFrameLength udpDataOffset) 1
    if capacity < data.length then
      return ⟨f, .error (.payloadTooLarge data.length capacity)⟩
    else
      let f ← copyTo f udpDataOffset (udpDataOffset + data.length) data
      answerUdp s f data.length

def sendTcp (data : Bytes) : Guarded Prepared := do
  if (← holdsPacket f IpProtocol.tcp) = false then
    return ⟨f, .error (.protocolMismatch .tcp)⟩
  else
    match ← stagedDataOffset f with
    | .error e => return ⟨f, .error e⟩
    | .ok start =>
      -- this difference stops at zero
      let capacity := maxFrameLength - (start + 1)
      if capacity < data.length then
        return ⟨f, .error (.payloadTooLarge data.length capacity)⟩
      else
        let f ← copyTo f start (start + data.length) data
        answerTcp s r f data.length

/-! ### The outer layers -/

lemma answerEthernet_eq (len : Nat) : answerEthernet s f len = pure (f.answerEthernet s len) := by
  unfold answerEthernet Frame.answerEthernet
  split
  · rfl
  next hlen =>
    replace hlen : len ≤ 1514 := Nat.not_lt.1 hlen
    rw [recordAt_eq (by decide), pure_bind, putRecord_eq (by decide) (Nat.le_refl _), pure_bind,
      part_eq (Nat.zero_le _) (Nat.le_trans hlen (by decide)), pure_bind]

lemma answerIpv4_eq (protocol : UInt8) (len : Nat) :
    answerIpv4 s f protocol len = pure (f.answerIpv4 s protocol len) := by
  unfold answerIpv4 Frame.answerIpv4
  split
  · rw [sub_eq (by decide), pure_bind]
  next hlen =>
    replace hlen : 34 + len ≤ 1514 := Nat.not_lt.1 hlen
    rw [sub_eq (by decide), pure_bind, recordAt_eq (by decide), pure_bind, word16_eq (by omega),
      pure_bind, withChecksum_eq, pure_bind, putRecord_eq (by decide) (by decide), pure_bind,
      answerEthernet_eq]
    rfl

/-! ### Datagrams -/

variable {f}

lemma padEven_eq {start len : Nat} (h : start + len < frameSize) :
    padEven f start len = pure (f.padEven start len, evenLength len) := by
  unfold padEven Frame.padEven evenLength
  split
  next heven => rw [heven, Nat.add_zero]
  next hodd =>
    have hone : len % 2 = 1 := by omega
    rw [setIn_eq h, pure_bind, hone]

lemma headerAddress_eq {start : Nat} (h : start + 4 ≤ 20) :
    headerAddress (f.slice ipOffset transportOffset) start =
      pure (f.get Ipv4Addr (ipOffset + start)) := by
  have hheader : (f.slice ipOffset transportOffset).length = 20 := by
    rw [Frame.length_slice]
    rfl
  have haddress :
      (Bytes.slice (f.slice ipOffset transportOffset) start (start + 4)).length = 4 := by
    rw [Bytes.length_slice]
    omega
  rw [headerAddress, slice_eq (by omega) (by omega), pure_bind,
    record_eq (Nat.le_of_eq haddress.symm),
    Bytes.decode_slice (show 0 + 4 ≤ start + 4 - start by omega),
    f.decode_slice (show start + 0 + 4 ≤ 34 - 14 by omega)]
  rfl

lemma stagedAddresses_eq : stagedAddresses f =
    pure ((f.get Ipv4Header ipOffset).src, (f.get Ipv4Header ipOffset).dst) := by
  have hstart : transportOffset - 20 = ipOffset := rfl
  rw [stagedAddresses, sub_eq (by decide), pure_bind, hstart, part_eq (by decide) (by decide),
    pure_bind, headerAddress_eq (by decide), pure_bind, headerAddress_eq (by decide), pure_bind]
  rfl

lemma fillUdp_eq {n : Nat} (h : n ≤ 1480) : fillUdp s f n = pure
    (if s.fillUdpChecksums then
      f.write (transportOffset + 6) (ofWord16
        (PacketHost.udpChecksum (f.get Ipv4Header ipOffset).src (f.get Ipv4Header ipOffset).dst
          (f.slice transportOffset (transportOffset + n))))
    else f) := by
  have hlen : (f.slice transportOffset (transportOffset + n)).length < 65536 := by
    rw [Frame.length_slice]
    omega
  unfold fillUdp
  split
  · rw [stagedAddresses_eq, pure_bind]
    dsimp only
    rw [part_eq (Nat.le_add_right ..) (show 34 + n ≤ 1536 by omega), pure_bind,
      udpChecksum_eq _ _ hlen, pure_bind, storeTo_eq (Nat.le_refl 42) (by decide)]
  · rfl

lemma answerUdp_eq {len : Nat} (h : len ≤ 1471) :
    answerUdp s f len = pure (f.answerUdp s len) := by
  have heven := evenLength_le len
  have hmod := evenLength_mod_two len
  rw [answerUdp, padEven_eq (show 42 + len < 1536 by omega), pure_bind]
  dsimp only
  rw [recordAt_eq (by decide), pure_bind, word16_eq (by omega), pure_bind,
    putRecord_eq (by decide) (by decide), pure_bind, fillUdp_eq s (by omega), pure_bind,
    answerIpv4_eq]
  rfl

/-! ### Segments -/

lemma finishTcp_eq (headerLength dataLength : Nat) :
    finishTcp s f headerLength dataLength = pure (f.finishTcp s headerLength dataLength) := by
  unfold finishTcp Frame.finishTcp
  generalize headerLength + dataLength = n
  dsimp only
  split
  · rw [sub_eq (by decide), pure_bind]
  next hlen =>
    replace hlen : 34 + n ≤ 1514 := Nat.not_lt.1 hlen
    have hshort (g : Frame) : (g.slice transportOffset (transportOffset + n)).length < 65536 := by
      rw [Frame.length_slice]
      omega
    rw [stagedAddresses_eq, pure_bind]
    dsimp only
    rw [storeTo_eq (Nat.le_refl 52) (by decide), pure_bind,
      part_eq (Nat.le_add_right ..) (show 34 + n ≤ 1536 by omega), pure_bind,
      pseudoHeaderChecksum_eq _ _ _ (hshort _), pure_bind, storeTo_eq (Nat.le_refl 52) (by decide),
      pure_bind, answerIpv4_eq]

lemma stagedDataOffset_eq : stagedDataOffset f = pure
    (if (f.get TcpHeader transportOffset).dataOffset < 20 then
      .error (.sizeMismatch (f.get TcpHeader transportOffset).dataOffset 20)
    else .ok (transportOffset + (f.get TcpHeader transportOffset).dataOffset)) := by
  rw [stagedDataOffset, recordAt_eq (by decide), pure_bind]
  split <;> rfl

/-- The header stands in front of the data, so padding leaves it alone. -/
lemma answerTcp_eq {len : Nat}
    (h : transportOffset + (f.get TcpHeader transportOffset).dataOffset + len < frameSize) :
    answerTcp s r f len = pure (f.answerTcp s r len) := by
  rw [answerTcp, stagedDataOffset_eq, pure_bind]
  unfold Frame.answerTcp
  dsimp only
  generalize hoff : (f.get TcpHeader transportOffset).dataOffset = offset at h ⊢
  by_cases hshort : offset < 20
  · rw [if_pos hshort, if_pos hshort]
  · have hheader : (f.padEven (transportOffset + offset) len).get TcpHeader transportOffset =
        f.get TcpHeader transportOffset :=
      (f.agreeOn_padEven (Nat.le_add_right (transportOffset + offset) len)).get_tcp
        (show 54 ≤ 34 + offset by omega)
    rw [if_neg hshort, if_neg hshort]
    dsimp only
    rw [sub_eq (Nat.le_add_right ..), pure_bind, padEven_eq h, pure_bind]
    dsimp only
    rw [recordAt_eq (by decide), pure_bind, hheader, putRecord_eq (by decide) (Nat.le_refl _),
      pure_bind, finishTcp_eq, Nat.add_sub_cancel_left]

/-! ### Answering once more -/

lemma holdsPacket_eq (protocol : UInt8) :
    holdsPacket f protocol = pure (f.holdsPacket protocol) := by
  rw [holdsPacket, recordAt_eq (by decide), pure_bind, recordAt_eq (by decide), pure_bind]
  rfl

lemma sendUdp_eq (data : Bytes) : sendUdp s f data = pure (f.sendUdp s data) := by
  rw [sendUdp, holdsPacket_eq, pure_bind]
  unfold Frame.sendUdp
  dsimp only
  split
  · rfl
  · rw [sub_eq (by decide), pure_bind, sub_eq (by decide), pure_bind]
    split
    · rfl
    next hlen =>
      replace hlen : data.length ≤ 1471 := Nat.not_lt.1 hlen
      rw [copyTo_eq rfl (show 42 + data.length ≤ 1536 by omega), pure_bind, answerUdp_eq s hlen]

/-- What is written starts behind the header, and there is a byte left behind it. -/
lemma sendTcp_eq (data : Bytes) : sendTcp s r f data = pure (f.sendTcp s r data) := by
  rw [sendTcp, holdsPacket_eq, pure_bind]
  unfold Frame.sendTcp
  dsimp only
  split
  · rfl
  · rw [stagedDataOffset_eq, pure_bind]
    generalize hoff : (f.get TcpHeader transportOffset).dataOffset = offset
    by_cases hshort : offset < 20
    · rw [if_pos hshort, if_pos hshort]
    · rw [if_neg hshort, if_neg hshort]
      dsimp only
      split
      · rfl
      next hlen =>
        have hmax := TcpHeader.dataOffset_le (f.get TcpHeader transportOffset)
        rw [hoff] at hmax
        have hfit : 34 + offset + data.length < 1514 := by
          replace hlen : data.length ≤ 1514 - (34 + offset + 1) := Nat.not_lt.1 hlen
          omega
        have hheader : ((f.write (transportOffset + offset) data).get TcpHeader
            transportOffset).dataOffset = offset := by
          rw [(Frame.agreeOn_write (.inr (show 54 ≤ 34 + offset by omega))).get_tcp
            (Nat.le_refl 54), hoff]
        rw [copyTo_eq rfl (show 34 + offset + data.length ≤ 1536 by omega), pure_bind,
          answerTcp_eq s r (by rw [hheader]; exact Nat.lt_trans hfit (by decide))]

end Guarded

end PacketHost
