import PacketHost.Device.Memory
import PacketHost.Proofs.Inquiring

/-!
From a name to an address.

A query is written by one part of the host and its response is read by another. They meet in the
question: what was asked comes back unread, and has to be skipped by a walk over the name in it,
like the owner name behind it, which may be of any form. Then the address is where it is looked for.
-/

namespace PacketHost

open Bytes Received

/-! ### The question in a query -/

/-- What a query asks, as it stands in the frame that is sent. -/
def questionIn (name : String) (query : Bytes) : Bytes :=
  slice query (udpDataOffset + Dns.headerLength)
    (udpDataOffset + ((Dns.nameBytes name).length + 18))

lemma padded_append (data : Bytes) : ∃ pad, padded data = data ++ pad := by
  unfold padded
  split
  · exact ⟨[], (List.append_nil data).symm⟩
  · exact ⟨[0], rfl⟩

lemma questionIn_nameQuery (s : Settings) (hw : MacAddr) (server : Ipv4Addr) (id : UInt16)
    (name : String) : questionIn name (nameQuery s hw server id name) = Dns.question name := by
  obtain ⟨pad, hpad⟩ := padded_append (Dns.queryMessage id name)
  obtain ⟨eth, ip, udp, heth, hip, hudp, hquery⟩ : ∃ eth ip udp : Bytes,
      eth.length = 14 ∧ ip.length = 20 ∧ udp.length = 8 ∧
        nameQuery s hw server id name =
          eth ++ (ip ++ (udp ++
            (Wire.encode (DnsHeader.query id) ++ Dns.question name ++ pad))) := by
    unfold nameQuery packet datagramTo
    rw [hpad]
    exact ⟨_, _, _, LawfulWire.length_encode _, LawfulWire.length_encode _,
      LawfulWire.length_encode _, rfl⟩
  have hheader : (Wire.encode (DnsHeader.query id)).length = 12 := LawfulWire.length_encode _
  have hfront : (eth ++ (ip ++ (udp ++ Wire.encode (DnsHeader.query id)))).length =
      udpDataOffset + Dns.headerLength := by
    simp only [List.length_append, heth, hip, hudp, hheader]
    rfl
  have hstop : udpDataOffset + ((Dns.nameBytes name).length + 18) =
      udpDataOffset + Dns.headerLength + (Dns.question name).length := by
    rw [Dns.length_question]
    show 42 + (_ + 18) = 42 + 12 + (_ + 6)
    omega
  have hsplit : nameQuery s hw server id name =
      (eth ++ (ip ++ (udp ++ Wire.encode (DnsHeader.query id)))) ++ (Dns.question name ++ pad) := by
    rw [hquery]
    simp only [List.append_assoc]
  rw [questionIn, hsplit, hstop]
  exact slice_append_append hfront

/-! ### Responses -/

/-- A response from `server` to the query with this identifier: the question as it was asked, an
answer with an owner name, and its address at `position`. The lengths of packet and datagram may go
beyond it, and even beyond the frame. -/
structure Responds (server : Ipv4Addr) (port id : UInt16) (asked response : Bytes)
    (position : Nat) (address : Ipv4Addr) : Prop where
  etherType : (ethernet response).etherType = EtherType.ipv4
  versionIhl : (ip response).versionIhl = Ipv4Header.plainVersionIhl
  protocol : (ip response).protocol = IpProtocol.udp
  src : (ip response).src = server
  srcPort : (udp response).srcPort = dnsPort
  dstPort : (udp response).dstPort = port
  parts : ∃ (header : DnsHeader) (owner fixed rest : Bytes),
    header.id = id ∧ Dns.WireName owner ∧ fixed.length = 10 ∧
      response.drop udpDataOffset = Wire.encode header ++
        (asked ++ (owner ++ (fixed ++ (address.octets ++ rest)))) ∧
      position = Dns.headerLength + asked.length + owner.length + 10
  totalLength : 28 + (position + 4) ≤ (ip response).totalLength.toNat
  length : 8 + (position + 4) ≤ (udp response).length.toNat

namespace Received

variable {b : Bytes}

lemma Plain.length_message (h : Plain b) : (message b).length = packetLength b - 20 := by
  have hlen := h.length_le
  have hle : packetLength b ≤ b.length - 14 := Nat.min_le_right _ _
  rw [message, Bytes.length_slice]
  show min (14 + packetLength b - 34) (b.length - 34) = _
  omega

lemma decode_message (h : 28 ≤ packetLength b) :
    (Wire.decode (message b) 0 : UdpHeader) = udp b := by
  refine Wire.decode_congr fun i hi => ?_
  have hi : i < 8 := hi
  rw [message, Bytes.byteAt_slice, if_pos (show 0 + i < 14 + packetLength b - 34 by omega),
    Nat.zero_add]

/-- The data of a datagram is what stands behind its header, cut at two lengths. -/
lemma datagramData_eq (h : Plain b) (hheader : 28 ≤ packetLength b) :
    datagramData b = (b.drop udpDataOffset).take
      (min (udp b).payloadLength (packetLength b - 28)) := by
  have hbehind : (message b).drop 8 = (b.drop udpDataOffset).take (packetLength b - 28) := by
    rw [message, slice, List.drop_take, List.drop_drop]
    congr 1
    show 14 + packetLength b - 34 - 8 = _
    omega
  have hstop : min (8 + (udp b).payloadLength) (packetLength b - 20) - 8 =
      min (udp b).payloadLength (packetLength b - 28) := by
    omega
  rw [datagramData, decode_message hheader, h.length_message, slice, hbehind, List.take_take, hstop,
    Nat.min_eq_left (Nat.min_le_right _ _)]

end Received

namespace Responds

variable {server : Ipv4Addr} {port id : UInt16} {asked response : Bytes} {position : Nat}
  {address : Ipv4Addr}

/-- The whole answer is in the frame. -/
lemma length_le (h : Responds server port id asked response position address) :
    udpDataOffset + position + 4 ≤ response.length := by
  obtain ⟨header, owner, fixed, rest, -, -, hfixed, hdrop, hposition⟩ := h.parts
  have hheader : (Wire.encode header).length = 12 := LawfulWire.length_encode _
  have haddress : address.octets.length = 4 := rfl
  have hlen := congrArg List.length hdrop
  simp only [List.length_drop, List.length_append, hheader, hfixed, haddress] at hlen
  replace hposition : position = 12 + asked.length + owner.length + 10 := hposition
  show 42 + position + 4 ≤ response.length
  replace hlen : response.length - 42 = _ := hlen
  omega

lemma le_packetLength (h : Responds server port id asked response position address) :
    28 + (position + 4) ≤ packetLength response := by
  have hlen : 42 + position + 4 ≤ response.length := h.length_le
  have htotal := h.totalLength
  rw [packetLength]
  show _ ≤ min _ (response.length - 14)
  omega

lemma plain (h : Responds server port id asked response position address) : Plain response where
  length_le := by
    have hlen : 42 + position + 4 ≤ response.length := h.length_le
    omega
  etherType := h.etherType
  versionIhl := h.versionIhl
  covers := by
    have hle := h.le_packetLength
    omega

/-- The message in a response: behind the address, some of what follows may be left. -/
lemma datagramData_parts (h : Responds server port id asked response position address) :
    ∃ (header : DnsHeader) (owner fixed rest : Bytes),
      header.id = id ∧ Dns.WireName owner ∧ fixed.length = 10 ∧
        datagramData response = Wire.encode header ++
          (asked ++ (owner ++ (fixed ++ (address.octets ++ rest)))) ∧
        position = Dns.headerLength + asked.length + owner.length + 10 := by
  obtain ⟨header, owner, fixed, rest, hid, howner, hfixed, hdrop, hposition⟩ := h.parts
  have hlen := h.le_packetLength
  have hudp := h.length
  have hheader : (Wire.encode header).length = 12 := LawfulWire.length_encode _
  have haddress : address.octets.length = 4 := rfl
  obtain ⟨k, hk⟩ : ∃ k, min (udp response).payloadLength (packetLength response - 28) =
      12 + (asked.length + (owner.length + (10 + (4 + k)))) := by
    have hpayload : position + 4 ≤ (udp response).payloadLength := by
      rw [UdpHeader.payloadLength]
      omega
    replace hposition : position = 12 + asked.length + owner.length + 10 := hposition
    exact ⟨min (udp response).payloadLength (packetLength response - 28) -
      (12 + (asked.length + (owner.length + (10 + 4)))), by omega⟩
  refine ⟨header, owner, fixed, rest.take k, hid, howner, hfixed, ?_, hposition⟩
  rw [datagramData_eq h.plain (by omega), hdrop, hk, ← hheader, ← hfixed, ← haddress]
  simp only [List.take_length_add_append]

lemma answersQuery (h : Responds server port id asked response position address) :
    AnswersQuery server port id response := by
  obtain ⟨header, owner, fixed, rest, hid, -, -, hdata, -⟩ := h.datagramData_parts
  have hle := h.le_packetLength
  have hlen : (message response).length = packetLength response - 20 := h.plain.length_message
  have hudp := decode_message (show 28 ≤ packetLength response by omega)
  have hheader : (Wire.encode header).length = 12 := LawfulWire.length_encode _
  exact
    { toPlain := h.plain
      protocol := h.protocol
      src := h.src
      header := by omega
      srcPort := by rw [hudp, h.srcPort]
      dstPort := by rw [hudp, h.dstPort]
      length_data := by
        rw [hdata, List.length_append, hheader]
        omega
      id_eq := by
        rw [hdata, ← hid]
        exact congrArg DnsHeader.id (decode_append (x := []) header rfl) }

/-- The address is found where it stands. -/
lemma answerOffset_eq {name : String}
    (h : Responds server port id (Dns.question name) response position address)
    (hlabels : ∀ l ∈ Dns.nameLabels name, Dns.isLabel l = true) :
    Dns.answerOffset (datagramData response) = .ok position := by
  obtain ⟨header, owner, fixed, rest, -, howner, hfixed, hdata, hposition⟩ := h.datagramData_parts
  have hasked := Dns.wireName_encodedName hlabels
  have htail : Dns.questionTail.length = 4 := rfl
  rw [hdata, Dns.question, List.append_assoc,
    Dns.answerOffset_of_parts (LawfulWire.length_encode header) hasked htail howner hfixed rfl,
    hposition, Dns.question, List.length_append, htail, Nat.add_assoc Dns.headerLength]

/-- The address is read where it stands. -/
lemma slice_address (h : Responds server port id asked response position address) :
    slice response (udpDataOffset + position) (udpDataOffset + position + 4) = address.octets := by
  obtain ⟨header, owner, fixed, rest, -, -, hfixed, hdrop, hposition⟩ := h.parts
  have hheader : (Wire.encode header).length = Dns.headerLength := LawfulWire.length_encode _
  have hfront : (Wire.encode header ++ (asked ++ (owner ++ fixed))).length = position := by
    simp only [List.length_append, hheader, hfixed, hposition]
    omega
  have hsplit : response.drop udpDataOffset =
      (Wire.encode header ++ (asked ++ (owner ++ fixed))) ++ (address.octets ++ rest) := by
    rw [hdrop]
    simp only [List.append_assoc]
  rw [slice, ← List.drop_drop, hsplit, ← hfront, List.drop_left, Nat.add_sub_cancel_left]
  rfl

end Responds

/-- **A name is resolved** if its server tells its hardware address and answers the query, both in
time. The address is that of the first answer, and it stands in the buffer where the result says. -/
theorem resolveName_of_response {δ : Type} [Device δ] (h : Host δ) {server : Ipv4Addr}
    {name : String} {budget n position : Nat} {hw : MacAddr} {d₁ d₂ d₃ : δ} {response : Bytes}
    {address : Ipv4Addr}
    (hlabels : ∀ l ∈ Dns.nameLabels name, Dns.isLabel l = true)
    (hlen : (Dns.nameBytes name).length + 18 ≤ 1471)
    (hlearns : h.Learns server budget hw d₁)
    (hquery : Device.send (nameQuery h.settings hw server h.dnsTransaction name) d₁ = (.ok (), d₂))
    (hgives : Device.Gives
      (fun x => ¬ AnswersQuery server h.settings.dnsSourcePort h.dnsTransaction x) n d₂ response d₃)
    (hn : n < budget)
    (hresponse : Responds server h.settings.dnsSourcePort h.dnsTransaction
      (questionIn name (nameQuery h.settings hw server h.dnsTransaction name)) response position
      address) : ∃ h',
    Host.resolveName server name budget h = (.ok ⟨udpDataOffset + position, address⟩, h') ∧
      h'.device = d₃ ∧
      h'.frame.slice (udpDataOffset + position) (udpDataOffset + position + 4) =
        address.octets := by
  rw [questionIn_nameQuery] at hresponse
  obtain ⟨h', hmoved, hholds, hresolve⟩ := Host.resolveName_of_gives hlearns hlabels hlen hquery
    hgives hresponse.answersQuery hn (hresponse.answerOffset_eq hlabels) hresponse.length_le
  have hslice := hresponse.slice_address
  have haddress : (Wire.decode response (udpDataOffset + position) : Ipv4Addr) = address := by
    refine Wire.decode_of_holdsAt fun i hi => ?_
    have hi : i < 4 := hi
    show byteAt address.octets i = _
    rw [← hslice, byteAt_slice, if_pos (by omega)]
  refine ⟨h', ?_, by rw [hmoved], ?_⟩
  · rw [hresolve, haddress]
  · rw [hholds.slice_eq hresponse.length_le, hslice]

/-! ### A server that knows one name -/

/-- The server tells its hardware address. -/
def toldByServer : Bytes :=
  arpFrame ⟨2, 0, 0, 0, 0, 1⟩ ⟨2, 0, 0, 0, 0, 2⟩
    ((ArpPacket.request ⟨2, 0, 0, 0, 0, 1⟩ ⟨10, 0, 0, 1⟩ ⟨10, 0, 0, 2⟩).answer ⟨2, 0, 0, 0, 0, 2⟩
      ⟨10, 0, 0, 2⟩)

lemma tellsHardware_toldByServer : TellsHardware ⟨10, 0, 0, 2⟩ toldByServer :=
  ⟨by decide, by decide, by decide, by decide, by decide, by decide⟩

/-- The server answers for `a.b`, with a pointer to the name in the question. -/
def answerOfServer : Bytes :=
  [0x02, 0, 0, 0, 0, 0x01, 0x02, 0, 0, 0, 0, 0x02, 0x08, 0x00,
    0x45, 0, 0, 65, 0, 0, 0, 0, 64, 17, 0, 0, 10, 0, 0, 2, 10, 0, 0, 1,
    0, 53, 0xC0, 0x01, 0, 45, 0, 0,
    0x01, 0x00, 0x81, 0x80, 0, 1, 0, 1, 0, 0, 0, 0,
    1, 0x61, 1, 0x62, 0, 0, 1, 0, 1,
    0xC0, 0x0C, 0, 1, 0, 1, 0, 0, 0, 60, 0, 4, 93, 184, 216, 34]

/-- A host whose peer tells its hardware address, and answers a query with this frame. -/
def Host.withServer (response : Bytes) : Host MemoryDevice :=
  Host.new { script := [fun _ => [toldByServer], fun _ => [response]] } {}

lemma learns_withServer (response : Bytes) :
    (Host.withServer response).Learns ⟨10, 0, 0, 2⟩ 1 ⟨2, 0, 0, 0, 0, 2⟩
      { sent := [arpRequest {} ⟨10, 0, 0, 2⟩], script := [fun _ => [response]],
        receiveCalls := 1 } :=
  .intro rfl (.here rfl) tellsHardware_toldByServer (Nat.le_refl 1)

lemma responds_answerOfServer :
    Responds ⟨10, 0, 0, 2⟩ 49153 0x0100 (Dns.question "a.b") answerOfServer 33
      ⟨93, 184, 216, 34⟩ where
  etherType := by decide
  versionIhl := by decide
  protocol := by decide
  src := by decide
  srcPort := by decide
  dstPort := by decide
  parts := ⟨⟨0x0100, 0x8180, 1, 1, 0, 0⟩, [0xC0, 0x0C], [0, 1, 0, 1, 0, 0, 0, 60, 0, 4], [], rfl,
    .pointer 0x0C (by decide), rfl, by decide +kernel, by decide +kernel⟩
  totalLength := by decide
  length := by decide

theorem resolveName_of_response_resolving :
    (Host.resolveName ⟨10, 0, 0, 2⟩ "a.b" 1 (Host.withServer answerOfServer)).1 =
      .ok ⟨75, ⟨93, 184, 216, 34⟩⟩ := by
  have hresponse := responds_answerOfServer
  rw [← questionIn_nameQuery {} ⟨2, 0, 0, 0, 0, 2⟩ ⟨10, 0, 0, 2⟩ 0x0100 "a.b"] at hresponse
  obtain ⟨h', hresolve, -⟩ := resolveName_of_response (Host.withServer answerOfServer)
    (by decide +kernel) (by decide +kernel) (learns_withServer _) rfl (.here rfl) (Nat.le_refl 1)
    hresponse
  rw [hresolve]

end PacketHost
