import PacketHost.Proofs.Guarded.Replies
import PacketHost.Proofs.Guarded.Turns

/-!
Reactions within the frame.

Four lengths come with a frame: its own, and those in its IPv4, UDP and TCP headers. None of them is
trusted to be what the others say. A layer takes the smaller of what it is told and what it has, and
from there on every part of the buffer that it looks at ends where its data does. So one condition
is enough for all of them: the frame is not larger than the buffer. What the application does that
is given a turn is left open (`Guarded.ReactsAs`).
-/

namespace PacketHost

open Bytes

/-- The region begins where the data of a datagram does. -/
def Call.OfDatagram (c : Call) : Prop := c.start = udpDataOffset

/-- The region begins where the data of a segment does, behind a header with any options. -/
def Call.OfSegment (c : Call) : Prop :=
  ∃ tcp : TcpHeader, 20 ≤ tcp.dataOffset ∧ c.start = transportOffset + tcp.dataOffset

/-- The turns that can be given while these applications are registered. -/
inductive Registry.Offers (r : Registry) : Call → Prop
  | datagram {c : Call} (hc : c.OfDatagram) (hh : r.udpHandler? c.localPort = some c.handler) :
      r.Offers c
  | segment {c : Call} (hc : c.OfSegment) (hh : r.tcpHandler? c.localPort = some c.handler) :
      r.Offers c

/-- In the turn that has been recorded like this, the application writes past its region. -/
def Registry.StraysIn (r : Registry) (turn : Nat) (d : Delivery) (fault : Fault) : Prop :=
  ∃ (f : Frame) (c : Call), r.Offers c ∧ d = (f.exchange c).delivery turn c.handler ∧
    c.handler.StraysOn turn (f.exchange c) fault

/-- In one of these turns, one of the applications does. -/
def Registry.Strayed (r : Registry) (turns : List Delivery) (fault : Fault) : Prop :=
  ∃ (turn : Nat) (d : Delivery), turns[turn]? = some d ∧ r.StraysIn turn d fault

lemma Registry.Strayed.mono {r : Registry} {turns turns' : List Delivery} {fault : Fault}
    (hturns : turns <+: turns') (h : r.Strayed turns fault) : r.Strayed turns' fault := by
  obtain ⟨turn, d, hd, hstray⟩ := h
  obtain ⟨later, rfl⟩ := hturns
  obtain ⟨hlt, -⟩ := List.getElem?_eq_some_iff.1 hd
  exact ⟨turn, d, (List.getElem?_append_left hlt).trans hd, hstray⟩

namespace Guarded

variable (s : Settings) (r : Registry) (turn : Nat) (f : Frame)

def terminate (stop : Nat) : Guarded Frame :=
  if stop < frameSize then setIn f stop 0 else pure f

/-- The message with its checksum filled in, where it stands. -/
def fillChecksum (message : Bytes) : Guarded Bytes := do
  store message 2 4 (ofWord16 (← checksum message))

def echoReply? (message : Bytes) : Guarded (Option Bytes) :=
  match (Wire.parse? message : Option IcmpHeader) with
  | none => pure none
  | some h =>
    if h.isEchoRequest then do
      let reply := { h with type := IcmpHeader.echoReplyType, checksum := 0 }
      return some (← fillChecksum (← store message 0 message.length (Wire.encode reply)))
    else
      pure none

def readArp (len : Nat) : Guarded Reaction := do
  match (Wire.parse? (← part f ipOffset len) : Option ArpPacket) with
  | none => return { frame := f, notes := [.otherArp] }
  | some p =>
    if p.isRequestFor s.ip then
      let a := p.answer s.mac s.ip
      let f ← putRecord f ipOffset (ipOffset + 28) a
      let prepared ← answerEthernet s f (ipOffset + 28)
      return (Reaction.answering .arp prepared).note (.answeringArp a.targetHw a.targetIp)
    else
      return { frame := f, notes := [.otherArp] }

def readIcmp (len : Nat) : Guarded Reaction :=
  if len < 8 then
    pure { frame := f }
  else do
    match ← echoReply? (← part f transportOffset (transportOffset + len)) with
    | none => return { frame := f, notes := [.otherIcmp (← index f.bytes transportOffset)] }
    | some message =>
      let f ← copyTo f transportOffset (transportOffset + len) message
      let prepared ← answerIpv4 s f IpProtocol.icmp len
      return (Reaction.answering .echo prepared).note (.answeringEcho len)

def readUdp (ip : Ipv4Header) (len : Nat) : Guarded Reaction := do
  let datagram ← part f transportOffset (transportOffset + len)
  match (Wire.parse? datagram : Option UdpHeader) with
  | none => return { frame := f }
  | some udp =>
    let n := min udp.payloadLength (← sub len 8)
    let f ← terminate f (udpDataOffset + n)
    match r.udpHandler? udp.dstPort with
    | none => return { frame := f, notes := [.noUdpHandler udp.dstPort] }
    | some h =>
      match ← deliver turn f h udpDataOffset n ip.src udp.srcPort udp.dstPort with
      | (f, none, d) => return { frame := f, delivery := some d }
      | (f, some n, d) =>
        return { Reaction.answering .udp (← answerUdp s f n) with delivery := some d }

def readTcp (ip : Ipv4Header) (len : Nat) : Guarded Reaction := do
  let segment ← part f transportOffset (transportOffset + len)
  match (Wire.parse? segment : Option TcpHeader) with
  | none => return { frame := f }
  | some tcp =>
    let offset := tcp.dataOffset
    if offset < 20 ∨ len < offset then
      return { frame := f, notes := [.badDataOffset offset] }
    else if tcp.has TcpFlag.psh = false then
      let reply := tcp.controlReply
      let f ← putRecord f transportOffset frameSize reply
      let prepared ← finishTcp s f 20 0
      return (Reaction.answering .tcpControl prepared).note
        (.answeringControl reply.srcPort reply.flags)
    else
      let f ← putRecord f transportOffset frameSize tcp.swapForReply
      let n ← sub len offset
      match r.tcpHandler? tcp.dstPort with
      | none => return { frame := f, notes := [.noTcpHandler tcp.dstPort] }
      | some h =>
        match ← deliver turn f h (transportOffset + offset) n ip.src tcp.srcPort tcp.dstPort with
        | (f, none, d) => return { frame := f, delivery := some d }
        | (f, some n, d) =>
          return { Reaction.answering .tcpData (← answerTcp s r f n) with delivery := some d }

/-- The header's checksum is wrong, as far as that is asked. -/
def isDamaged (ip : Ipv4Header) : Guarded Bool :=
  if s.verifyChecksums then do
    return (← checksum (Wire.encode ip)) != 0
  else
    pure false

def readIpv4 (len : Nat) : Guarded Reaction := do
  match (Wire.parse? (← part f ipOffset len) : Option Ipv4Header) with
  | none => return { frame := f }
  | some ip =>
    if ip.isPlain = false ∨ ip.dst ≠ s.ip then
      return { frame := f, notes := [.otherDestination ip.dst] }
    else if (← isDamaged s ip) then
      return { frame := f, notes := [.badHeaderChecksum] }
    else
      let total := min ip.totalLength.toNat (← sub len ipOffset)
      if total < 20 then
        return { frame := f }
      else
        let f ← terminate f (ipOffset + total)
        let n ← sub total 20
        if ip.protocol = IpProtocol.icmp then readIcmp s f n
        else if ip.protocol = IpProtocol.tcp then readTcp s r turn f ip n
        else if ip.protocol = IpProtocol.udp then readUdp s r turn f ip n
        else return { frame := f, notes := [.otherProtocol ip.protocol] }

def react (len : Nat) : Guarded Reaction :=
  if len ≤ ipOffset then
    pure { frame := f, notes := [.runt len] }
  else do
    match (Wire.parse? (← part f 0 len) : Option EthernetHeader) with
    | none => return { frame := f }
    | some eth =>
      if eth.etherType = EtherType.arp then readArp s f len
      else if eth.etherType = EtherType.ipv4 then readIpv4 s r turn f len
      else return { frame := f, notes := [.otherEtherType eth.etherType] }

/-- The guarded reaction is this one, unless the application strays in the turn that it gives. -/
def ReactsAs (g : Guarded Reaction) (x : Reaction) : Prop :=
  EqUpTo (fun fault => ∃ d, x.delivery = some d ∧ r.StraysIn turn d fault) g x

variable {s r turn f}

lemma ReactsAs.of_eq {g : Guarded Reaction} {x : Reaction} (h : g = pure x) :
    ReactsAs r turn g x :=
  EqUpTo.of_eq h

/-! ### The readers -/

lemma terminate_eq (stop : Nat) : terminate f stop = pure (f.terminate stop) := by
  unfold terminate Frame.terminate
  split
  next h => exact setIn_eq h 0
  next h =>
    refine congrArg pure (Frame.ext_byte fun i hi => ?_)
    rw [Frame.byte_write, if_neg (by omega)]

lemma fillChecksum_eq {message : Bytes} (h : 8 ≤ message.length) :
    fillChecksum message = pure (Icmp.fillChecksum message) := by
  rw [fillChecksum, checksum_eq, pure_bind, store_eq (Nat.le_refl 4) (by omega)]
  rfl

lemma echoReply?_eq (message : Bytes) :
    echoReply? message = pure (Icmp.echoReply? message) := by
  unfold echoReply? Icmp.echoReply?
  by_cases hlen : 8 ≤ message.length
  · have hparse : (Wire.parse? message : Option IcmpHeader) = some (Wire.decode message 0) :=
      if_pos hlen
    rw [hparse]
    dsimp only
    split
    · rw [store_eq (show 0 + 8 ≤ message.length by omega) (Nat.le_refl _), pure_bind,
        fillChecksum_eq (by rwa [length_overwrite]), pure_bind]
    · rfl
  · have hparse : (Wire.parse? message : Option IcmpHeader) = none := if_neg hlen
    rw [hparse]

lemma isDamaged_eq (ip : Ipv4Header) :
    isDamaged s ip = pure (s.verifyChecksums && !ip.checksumValid) := by
  unfold isDamaged
  cases s.verifyChecksums with
  | false => rfl
  | true =>
    rw [if_pos rfl, checksum_eq, pure_bind]
    rfl

variable {len : Nat}

lemma readArp_eq (h1 : ipOffset ≤ len) (h2 : len ≤ frameSize) :
    readArp s f len = pure (f.readArp s len) := by
  rw [readArp, part_eq h1 h2, pure_bind, parse?_slice h1 h2]
  unfold Frame.readArp
  cases f.get? ArpPacket ipOffset len with
  | none => rfl
  | some p =>
    dsimp only
    split
    · rw [putRecord_eq (by decide) (by decide), pure_bind, answerEthernet_eq, pure_bind]
    · rfl

lemma readIcmp_eq (h : transportOffset + len ≤ frameSize) :
    readIcmp s f len = pure (f.readIcmp s len) := by
  have hlen : (f.slice transportOffset (transportOffset + len)).length = len := by
    rw [Frame.length_slice, Nat.add_sub_cancel_left, Nat.min_eq_left (Nat.le_sub_of_add_le' h)]
  unfold readIcmp Frame.readIcmp
  split
  · rfl
  next hmin =>
    rw [part_eq (Nat.le_add_right ..) h, pure_bind, echoReply?_eq, pure_bind]
    generalize hreply : Icmp.echoReply? (f.slice transportOffset (transportOffset + len)) = reply
    cases reply with
    | none => rw [index_eq (by rw [f.size_eq]; decide)]; rfl
    | some message =>
      have hfit : message.length = len := by
        rw [Icmp.echoReply?_eq (by omega)] at hreply
        split at hreply
        · cases hreply
          rw [Icmp.length_echoed, hlen]
        · cases hreply
      dsimp only
      rw [copyTo_eq (by rw [hfit]) h, pure_bind, answerIpv4_eq, pure_bind]

/-- A record that has been found fits. -/
lemma width_le_of_get? {α : Type} [Wire α] {start stop : Nat} {a : α}
    (h : f.get? α start stop = some a) : start + Wire.width α ≤ stop := by
  unfold Frame.get? at h
  split at h
  next hfit => exact hfit
  next => cases h

section Delivered

variable {h : Handler} {start n : Nat} {remoteIp : Ipv4Addr} {remotePort localPort : UInt16}
  {g : Frame} {d : Delivery}

/-- The turn is the one that is recorded in the reaction. -/
lemma reactsAs_deliver {k : Frame × Option Nat × Delivery → Guarded Reaction} {x : Reaction}
    (hc : r.Offers ⟨h, start, len, remoteIp, remotePort, localPort⟩)
    (hstart : start ≤ maxFrameLength)
    (hx : k (f.deliver turn h start len remoteIp remotePort localPort) = pure x ∧
      x.delivery = some (f.deliver turn h start len remoteIp remotePort localPort).2.2) :
    ReactsAs r turn (deliver turn f h start len remoteIp remotePort localPort >>= k) x := by
  refine ((deliver_eqUpTo hstart).mono ?_).bind (.of_eq hx.1)
  intro fault hstray
  exact ⟨_, hx.2, f, _, hc, rfl, hstray⟩

lemma reply_lt_of_deliver
    (hd : f.deliver turn h start len remoteIp remotePort localPort = (g, some n, d))
    (hstart : start < maxFrameLength) : start + n < maxFrameLength :=
  f.reply_turned_lt ⟨h, start, len, remoteIp, remotePort, localPort⟩ turn
    (congrArg (fun done => done.2.1) hd) hstart

/-- A turn leaves the header alone that stands in front of the region. -/
lemma get_tcp_of_deliver {reply : Option Nat}
    (hd : f.deliver turn h start len remoteIp remotePort localPort = (g, reply, d))
    (hstart : transportOffset + 20 ≤ start) :
    g.get TcpHeader transportOffset = f.get TcpHeader transportOffset := by
  have hg : g = f.turned ⟨h, start, len, remoteIp, remotePort, localPort⟩ turn :=
    (congrArg Prod.fst hd).symm
  rw [hg]
  exact (f.agreeOn_turned _ turn hstart).get_tcp (Nat.le_refl 54)

end Delivered

lemma readUdp_reactsAs (ip : Ipv4Header) (h : transportOffset + len ≤ frameSize) :
    ReactsAs r turn (readUdp s r turn f ip len) (f.readUdp s r turn ip len) := by
  rw [readUdp, part_eq (Nat.le_add_right ..) h, pure_bind, parse?_slice (Nat.le_add_right ..) h]
  unfold Frame.readUdp
  cases hudp : f.get? UdpHeader transportOffset (transportOffset + len) with
  | none => exact .of_eq rfl
  | some udp =>
    have hmin : 8 ≤ len := Nat.le_of_add_le_add_left (width_le_of_get? hudp)
    dsimp only
    rw [sub_eq hmin, pure_bind, terminate_eq, pure_bind]
    cases hh : r.udpHandler? udp.dstPort with
    | none => exact .of_eq rfl
    | some handler =>
      dsimp only
      refine reactsAs_deliver (.datagram rfl hh) (by decide) ?_
      generalize hd : Frame.deliver _ _ _ _ _ _ _ _ = done
      obtain ⟨g, - | n, d⟩ := done
      · exact ⟨rfl, rfl⟩
      · have hn : 42 + n < 1514 := reply_lt_of_deliver hd (by decide)
        dsimp only
        rw [answerUdp_eq s (by omega), pure_bind]
        exact ⟨rfl, rfl⟩

lemma readTcp_reactsAs (ip : Ipv4Header) (h : transportOffset + len ≤ frameSize) :
    ReactsAs r turn (readTcp s r turn f ip len) (f.readTcp s r turn ip len) := by
  rw [readTcp, part_eq (Nat.le_add_right ..) h, pure_bind, parse?_slice (Nat.le_add_right ..) h]
  unfold Frame.readTcp
  cases htcp : f.get? TcpHeader transportOffset (transportOffset + len) with
  | none => exact .of_eq rfl
  | some tcp =>
    dsimp only
    split
    · exact .of_eq rfl
    next hoff =>
      obtain ⟨hge, hle⟩ := not_or.1 hoff
      split
      · rw [putRecord_eq (by decide) (Nat.le_refl _), pure_bind, finishTcp_eq, pure_bind]
        exact .of_eq rfl
      · rw [putRecord_eq (by decide) (Nat.le_refl _), pure_bind, sub_eq (Nat.not_lt.1 hle),
          pure_bind]
        cases hh : r.tcpHandler? tcp.dstPort with
        | none => exact .of_eq rfl
        | some handler =>
          have hmax := tcp.dataOffset_le
          have hstart : 34 + tcp.dataOffset < 1514 := by omega
          dsimp only
          refine reactsAs_deliver (.segment ⟨tcp, Nat.not_lt.1 hge, rfl⟩ hh)
            (Nat.le_of_lt hstart) ?_
          generalize hd : Frame.deliver _ _ _ _ _ _ _ _ = done
          obtain ⟨g, - | n, d⟩ := done
          · exact ⟨rfl, rfl⟩
          · have hn : 34 + tcp.dataOffset + n < 1514 := reply_lt_of_deliver hd hstart
            have hheader : (g.get TcpHeader transportOffset).dataOffset = tcp.dataOffset := by
              rw [get_tcp_of_deliver hd (show 54 ≤ 34 + tcp.dataOffset by omega),
                Frame.get_put_tcp, TcpHeader.dataOffset_swapForReply]
            dsimp only
            rw [answerTcp_eq s r (by rw [hheader]; exact Nat.lt_trans hn (by decide)), pure_bind]
            exact ⟨rfl, rfl⟩

/-! ### Reactions -/

lemma readIpv4_reactsAs (h1 : ipOffset ≤ len) (h2 : len ≤ frameSize) :
    ReactsAs r turn (readIpv4 s r turn f len) (f.readIpv4 s r turn len) := by
  rw [readIpv4, part_eq h1 h2, pure_bind, parse?_slice h1 h2]
  unfold Frame.readIpv4
  cases f.get? Ipv4Header ipOffset len with
  | none => exact .of_eq rfl
  | some ip =>
    dsimp only
    split
    · exact .of_eq rfl
    · rw [isDamaged_eq, pure_bind]
      by_cases hdamaged : s.verifyChecksums ∧ ip.checksumValid = false
      · rw [if_pos hdamaged, if_pos (by simp [hdamaged])]
        exact .of_eq rfl
      · rw [if_neg hdamaged, if_neg (by simpa using hdamaged), sub_eq h1, pure_bind]
        split
        · exact .of_eq rfl
        next htotal =>
          -- the packet ends within the frame
          have hend : 34 + (min ip.totalLength.toNat (len - 14) - 20) ≤ 1536 := by
            replace h2 : len ≤ 1536 := h2
            omega
          rw [terminate_eq, pure_bind, sub_eq (Nat.not_lt.1 htotal), pure_bind]
          split
          · exact .of_eq (readIcmp_eq hend)
          · split
            · exact readTcp_reactsAs ip hend
            · split
              · exact readUdp_reactsAs ip hend
              · exact .of_eq rfl

/-- No frame that fits the buffer makes a host go out of range. -/
lemma react_reactsAs (h : len ≤ frameSize) :
    ReactsAs r turn (react s r turn f len) (f.react s r turn len) := by
  unfold react Frame.react
  split
  · exact .of_eq rfl
  next hlen =>
    have hmin : 14 < len := Nat.not_le.1 hlen
    rw [part_eq (Nat.zero_le _) h, pure_bind, parse?_slice (Nat.zero_le _) h,
      Frame.get?_of_le f (show 0 + 14 ≤ len by omega)]
    dsimp only
    split
    · exact .of_eq (readArp_eq (Nat.le_of_lt hmin) h)
    · split
      · exact readIpv4_reactsAs (Nat.le_of_lt hmin) h
      · exact .of_eq rfl

end Guarded

end PacketHost
