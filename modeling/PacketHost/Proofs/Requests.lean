import PacketHost.Inquiry
import PacketHost.Proofs.Names
import PacketHost.Proofs.Packet

/-!
What goes out when a host asks.

A request is staged as if the peer had sent it and then answered. Here is what that comes to: three
frames that are functions of the settings, of the peer and of an identifier. Nothing that was in the
buffer before is left in them.
-/

namespace PacketHost

open Bytes Received

/-- Who has `ip`? -/
def arpRequest (s : Settings) (ip : Ipv4Addr) : Bytes :=
  arpFrame .broadcast s.mac (ArpPacket.request s.mac s.ip ip)

def echoMessage (s : Settings) (sequence : UInt16) : Bytes :=
  Icmp.fillChecksum (Wire.encode (IcmpHeader.echoRequest s.pingIdentifier sequence) ++ pingPayload)

/-- An echo request. Its sequence number identifies the packet, too. -/
def echoRequest (s : Settings) (hw : MacAddr) (ip : Ipv4Addr) (sequence : UInt16) : Bytes :=
  packet s hw IpProtocol.icmp ip sequence (echoMessage s sequence)

/-- Data, and a zero byte behind it if their number is odd. -/
def padded (data : Bytes) : Bytes := if data.length % 2 = 0 then data else data ++ [0]

/-- A datagram to a peer, its checksum filled in if the settings say so. -/
def datagramTo (s : Settings) (peer : Ipv4Addr) (srcPort dstPort : UInt16) (data : Bytes) : Bytes :=
  let header : UdpHeader := ⟨srcPort, dstPort, .ofNat (8 + (padded data).length), 0⟩
  let sum := udpChecksum peer s.ip (Wire.encode header ++ padded data)
  Wire.encode { header with checksum := if s.fillUdpChecksums then sum else 0 } ++ padded data

/-- A name query. Its identifier identifies the packet, too. -/
def nameQuery (s : Settings) (hw : MacAddr) (server : Ipv4Addr) (id : UInt16) (name : String) :
    Bytes :=
  packet s hw IpProtocol.udp server id
    (datagramTo s server s.dnsSourcePort dnsPort (Dns.queryMessage id name))

@[simp] lemma length_echoMessage (s : Settings) (sequence : UInt16) :
    (echoMessage s sequence).length = 40 := by
  rw [echoMessage, Icmp.fillChecksum, length_overwrite, List.length_append,
    LawfulWire.length_encode]
  decide

lemma length_padded (data : Bytes) : (padded data).length = evenLength data.length := by
  unfold padded evenLength
  split
  next h => rw [h, Nat.add_zero]
  next h =>
    rw [List.length_append, List.length_singleton]
    omega

namespace Frame

variable (s : Settings) (f : Frame)

lemma slice_stageArpRequest (ip : Ipv4Addr) :
    (f.stageArpRequest s ip).slice 0 42 = arpRequest s ip := by
  have heth : (f.stageArpRequest s ip).get EthernetHeader 0 =
      ⟨.broadcast, s.mac, EtherType.arp⟩ := by
    rw [stageArpRequest, (agreeOn_put (.inr (Nat.le_refl 14))).get_ethernet (Nat.le_refl 14),
      get_put_ethernet]
  have harp : (f.stageArpRequest s ip).get ArpPacket ipOffset =
      ArpPacket.request s.mac s.ip ip :=
    get_put _ _ _ (by decide)
  rw [slice_arp _ (by rw [heth]), heth, harp, arpRequest]

variable {s} {f} {hw : MacAddr} {protocol : UInt8} {peer : Ipv4Addr} {id : UInt16}

/-- Whatever is staged behind the headers goes out as their payload. -/
lemma outgoing?_staged {g : Frame} {n : Nat} (hn : n ≤ 1480)
    (hg : AgreeOn 0 transportOffset g (f.stagePacket s hw protocol peer id)) :
    (g.answerIpv4 s protocol n).outgoing? =
      some (packet s hw protocol peer id (g.slice transportOffset (transportOffset + n))) := by
  have heth : g.get EthernetHeader 0 = ⟨s.mac, hw, EtherType.ipv4⟩ := by
    rw [hg.get_ethernet (by decide), stagePacket,
      (agreeOn_put (.inr (Nat.le_refl 14))).get_ethernet (Nat.le_refl 14), get_put_ethernet]
  have hip : g.get Ipv4Header ipOffset = Ipv4Header.outgoing protocol id peer s.ip 0 := by
    rw [hg.get_ipv4 (Nat.le_refl 34), stagePacket, get_put_ipv4]
  rw [outgoing?_packet g hn (by rw [heth]) (by rw [hip]; rfl), heth, hip]
  rfl

/-- An echo request as it is staged goes out whole. -/
lemma outgoing?_stageEchoRequest (s : Settings) (f : Frame) (hw : MacAddr) (ip : Ipv4Addr)
    (sequence : UInt16) :
    (((f.stagePacket s hw IpProtocol.icmp ip sequence).stageEchoRequest s.pingIdentifier
      sequence).answerIpv4 s IpProtocol.icmp (8 + pingPayload.length)).outgoing? =
        some (echoRequest s hw ip sequence) := by
  have hlen : 8 + pingPayload.length = 40 := by decide
  have hmessage : ((f.stagePacket s hw IpProtocol.icmp ip sequence).stageEchoRequest
      s.pingIdentifier sequence).slice transportOffset (transportOffset + 40) =
        echoMessage s sequence := by
    have hroom : transportOffset + (echoMessage s sequence).length ≤ frameSize := by
      rw [length_echoMessage]
      decide
    rw [← length_echoMessage s sequence]
    exact slice_write_self hroom
  have hfront : AgreeOn 0 transportOffset
      ((f.stagePacket s hw IpProtocol.icmp ip sequence).stageEchoRequest s.pingIdentifier sequence)
      (f.stagePacket s hw IpProtocol.icmp ip sequence) :=
    agreeOn_write (.inr (Nat.le_refl _))
  rw [hlen, outgoing?_staged (by decide) hfront, hmessage, echoRequest]

/-! ### Datagrams -/

/-- Data is followed by its padding. -/
lemma slice_padEven (f : Frame) {start len : Nat} (h : start + len < frameSize) :
    (f.padEven start len).slice start (start + evenLength len) =
      padded (f.slice start (start + len)) := by
  have hlen : (f.slice start (start + len)).length = len := by
    rw [length_slice]
    omega
  unfold padEven padded evenLength
  rw [hlen]
  split
  next heven => rw [heven, Nat.add_zero]
  next heven =>
    have hodd : len % 2 = 1 := by omega
    have hpad : (f.write (start + len) [0]).slice (start + len) (start + len + 1) = [0] :=
      slice_write_self (show start + len + 1 ≤ frameSize by omega)
    have hfront : (f.write (start + len) [0]).slice start (start + len) =
        f.slice start (start + len) :=
      (agreeOn_write (.inr (Nat.le_refl _))).slice_eq (Nat.le_refl start) (Nat.le_refl _)
    rw [hodd, ← slice_append_slice _ (Nat.le_add_right start len)
      (Nat.add_le_add_left (Nat.le_succ _) _), hfront]
    exact congrArg _ hpad

lemma slice_put_udp (header : UdpHeader) {data : Bytes} (hlen : data.length ≤ 1471) :
    (((f.write udpDataOffset data).padEven udpDataOffset data.length).put transportOffset
      header).slice transportOffset (transportOffset + (8 + evenLength data.length)) =
        Wire.encode header ++ padded data := by
  have hdata : (f.write udpDataOffset data).slice udpDataOffset (udpDataOffset + data.length) =
      data :=
    slice_write_self (show 42 + data.length ≤ 1536 by omega)
  have hroom : udpDataOffset + data.length < frameSize := show 42 + data.length < 1536 by omega
  have hpadded := (f.write udpDataOffset data).slice_padEven hroom
  rw [hdata] at hpadded
  generalize (f.write udpDataOffset data).padEven udpDataOffset data.length = g at hpadded ⊢
  have hheader : (g.put transportOffset header).slice transportOffset (transportOffset + 8) =
      Wire.encode ((g.put transportOffset header).get UdpHeader transportOffset) :=
    slice_eq_encode (α := UdpHeader) _ (show 34 + 8 ≤ 1536 by decide)
  have hbehind : AgreeOn udpDataOffset (udpDataOffset + evenLength data.length)
      (g.put transportOffset header) g :=
    agreeOn_put (.inl (Nat.le_refl 42))
  rw [get_put_udp] at hheader
  rw [← Nat.add_assoc, ← slice_append_slice _ (Nat.le_add_right transportOffset 8)
    (Nat.le_add_right _ (evenLength data.length)), hheader]
  exact congrArg _ ((hbehind.slice_eq (Nat.le_refl _) (Nat.le_refl _)).trans hpadded)

/-- A datagram in the buffer is answered, its ports turned around, to where its packet came from. -/
lemma slice_datagram {g : Frame} {data : Bytes} (hlen : data.length ≤ 1471)
    (hdst : (g.get Ipv4Header ipOffset).dst = s.ip) :
    ((g.write udpDataOffset data).datagram s data.length).slice transportOffset
      (transportOffset + (8 + evenLength data.length)) =
        datagramTo s (g.get Ipv4Header ipOffset).src (g.get UdpHeader transportOffset).dstPort
          (g.get UdpHeader transportOffset).srcPort data := by
  have hagree : AgreeOn 0 udpDataOffset (g.write udpDataOffset data) g :=
    agreeOn_write (.inr (Nat.le_refl _))
  have hheader (sum : UInt16) : (g.write udpDataOffset data).datagramHeader data.length sum =
      ⟨(g.get UdpHeader transportOffset).dstPort, (g.get UdpHeader transportOffset).srcPort,
        .ofNat (8 + (padded data).length), sum⟩ := by
    rw [datagramHeader, hagree.get_udp (Nat.le_refl 42), length_padded]
    rfl
  have hsum : (g.write udpDataOffset data).datagramSum data.length =
      udpChecksum (g.get Ipv4Header ipOffset).src s.ip (Wire.encode
        (UdpHeader.mk (g.get UdpHeader transportOffset).dstPort
          (g.get UdpHeader transportOffset).srcPort (.ofNat (8 + (padded data).length)) 0) ++
            padded data) := by
    rw [datagramSum, hagree.get_ipv4 (by decide), hdst, unsummed, hheader, slice_put_udp _ hlen]
  unfold datagramTo
  cases hfill : s.fillUdpChecksums with
  | false =>
    rw [datagram_of_not_fill s _ hfill, unsummed, hheader, slice_put_udp _ hlen]
    rfl
  | true =>
    rw [datagram_of_fill s _ hfill, hheader, slice_put_udp _ hlen, hsum]
    rfl

/-- The room for a query is the same in every buffer, and so is what comes of writing one. -/
lemma stageQuery_fst (s : Settings) (f : Frame) (id : UInt16) (name : String) :
    (f.stageQuery s id name).1 = Dns.queryLength name 1471 := by
  rw [stageQuery]
  dsimp only
  rw [Dns.buildQuery_fst, length_slice]
  rfl

/-- A query for a proper name is staged whole, behind headers that are still to be turned around. -/
lemma stageQuery_of_labels (s : Settings) (f : Frame) (id : UInt16) {name : String}
    (hl : ∀ l ∈ Dns.nameLabels name, Dns.isLabel l = true)
    (hlen : (Dns.nameBytes name).length + 18 ≤ 1471) :
    f.stageQuery s id name =
      (.ok (Dns.queryMessage id name).length,
        (f.put transportOffset (UdpHeader.mk dnsPort s.dnsSourcePort 0 0)).write udpDataOffset
          (Dns.queryMessage id name)) := by
  rw [stageQuery]
  generalize f.put transportOffset (UdpHeader.mk dnsPort s.dnsSourcePort 0 0) = g
  have hroom : (g.slice udpDataOffset (maxFrameLength - 1)).length = 1471 := by
    rw [length_slice]
    rfl
  have hquery : (Dns.queryMessage id name).length ≤ 1471 := by
    rw [Dns.length_queryMessage]
    exact hlen
  have hbuild : Dns.buildQuery id name (g.slice udpDataOffset (maxFrameLength - 1)) =
      (.ok ((Dns.nameBytes name).length + 18),
        overwrite (g.slice udpDataOffset (maxFrameLength - 1)) 0 (Dns.queryMessage id name)) :=
    Dns.buildQuery_of_labels hl (by rw [hroom]; exact hlen)
  rw [hbuild]
  refine Prod.ext (by rw [Dns.length_queryMessage]) ?_
  show g.write udpDataOffset (overwrite _ 0 (Dns.queryMessage id name)) = _
  -- what else is in the room for the query is put back to where it was
  have hwritten : overwrite (g.slice udpDataOffset (maxFrameLength - 1)) 0
      (Dns.queryMessage id name) =
        (g.write udpDataOffset (Dns.queryMessage id name)).slice udpDataOffset
          (maxFrameLength - 1) := by
    rw [slice_write (Nat.le_refl _), Nat.sub_self]
  rw [hwritten]
  ext i
  rw [byte_write_slice _ _ _ _ _ (by decide)]
  split
  · rfl
  next hout =>
    replace hout : ¬ (42 ≤ i ∧ i < 1513) := hout
    have hbehind : ¬ (42 ≤ i ∧ i < 42 + (Dns.queryMessage id name).length ∧ i < 1536) := by omega
    rw [byte_write, if_neg hbehind]

/-- A staged query goes out as a datagram to the server. -/
lemma outgoing?_stageQuery (s : Settings) (f : Frame) (hw : MacAddr) (server : Ipv4Addr)
    (id : UInt16) {name : String} (hlen : (Dns.nameBytes name).length + 18 ≤ 1471) :
    ((((f.stagePacket s hw IpProtocol.udp server id).put transportOffset
      (UdpHeader.mk dnsPort s.dnsSourcePort 0 0)).write udpDataOffset
        (Dns.queryMessage id name)).answerUdp s (Dns.queryMessage id name).length).outgoing? =
          some (nameQuery s hw server id name) := by
  have hquery : (Dns.queryMessage id name).length ≤ 1471 := by
    rw [Dns.length_queryMessage]
    exact hlen
  have heven := evenLength_le (Dns.queryMessage id name).length
  have hmod := evenLength_mod_two (Dns.queryMessage id name).length
  generalize hg : (f.stagePacket s hw IpProtocol.udp server id).put transportOffset
    (UdpHeader.mk dnsPort s.dnsSourcePort 0 0) = g
  have hfront : AgreeOn 0 transportOffset g (f.stagePacket s hw IpProtocol.udp server id) := by
    rw [← hg]
    exact agreeOn_put (.inr (Nat.le_refl _))
  have hip : g.get Ipv4Header ipOffset = Ipv4Header.outgoing IpProtocol.udp id server s.ip 0 := by
    rw [hfront.get_ipv4 (Nat.le_refl 34), stagePacket, get_put_ipv4]
  have hudp : g.get UdpHeader transportOffset = ⟨dnsPort, s.dnsSourcePort, 0, 0⟩ := by
    rw [← hg, get_put_udp]
  have hstaged : AgreeOn 0 transportOffset
      ((g.write udpDataOffset (Dns.queryMessage id name)).datagram s
        (Dns.queryMessage id name).length) (f.stagePacket s hw IpProtocol.udp server id) :=
    ((agreeOn_datagram s _).trans (agreeOn_write (.inr (by decide)))).trans hfront
  rw [answerUdp_eq, outgoing?_staged (by omega) hstaged, slice_datagram hquery (by rw [hip]; rfl),
    hip, hudp]
  rfl

/-- A query that has a length goes out, whatever was in the buffer before. -/
lemma outgoing?_of_queryLength (s : Settings) (f : Frame) (hw : MacAddr) (server : Ipv4Addr)
    (id : UInt16) {name : String} {n : Nat} (hn : Dns.queryLength name 1471 = .ok n) :
    (((f.stagePacket s hw IpProtocol.udp server id).stageQuery s id name).2.answerUdp s
      n).outgoing? = some (nameQuery s hw server id name) := by
  obtain ⟨hlabels, hlen⟩ := Dns.of_queryLength hn
  have hstaged := stageQuery_of_labels s (f.stagePacket s hw IpProtocol.udp server id) id hlabels
    hlen
  have hlength : n = (Dns.queryMessage id name).length := by
    rw [← stageQuery_fst s (f.stagePacket s hw IpProtocol.udp server id) id, hstaged] at hn
    exact (Except.ok.inj hn).symm
  rw [hstaged, hlength, outgoing?_stageQuery s f hw server id hlen]

end Frame

end PacketHost
