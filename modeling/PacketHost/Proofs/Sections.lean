import PacketHost.Proofs.Lookup

/-!
The section that an address is taken from.

Behind its question a response has three sections of records, answers, authorities and additionals,
and its header says how many there are in each. The walk to the address steps over the question and
comes to the first record there is; what the header says about it is not asked for. As long as there
is an answer, this is an answer. A response without one has an authority or an additional record
there, if it has any, and the walk ends in the data of that.
-/

namespace PacketHost

open Bytes Received

namespace Dns

/-! ### Messages by sections -/

/-- A resource record. -/
structure Record where
  owner : Bytes
  /-- Type, class and lifetime. -/
  fixed : Bytes
  data : Bytes
  wireName_owner : WireName owner
  length_fixed : fixed.length = 8
  length_data : data.length < 65536

def Record.bytes (r : Record) : Bytes :=
  r.owner ++ (r.fixed ++ (ofWord16 (.ofNat r.data.length) ++ r.data))

/-- A message with one question, and with as many records in each section as its header says. -/
structure Message where
  id : UInt16
  flags : UInt16
  asked : Bytes
  /-- The type and the class that are asked for. -/
  tail : Bytes
  answers : List Record
  authorities : List Record
  additionals : List Record
  wireName_asked : WireName asked
  length_tail : tail.length = 4
  length_answers : answers.length < 65536
  length_authorities : authorities.length < 65536
  length_additionals : additionals.length < 65536

namespace Message

variable (p : Message)

def header : DnsHeader :=
  { id := p.id
    flags := p.flags
    questions := 1
    answers := .ofNat p.answers.length
    authorities := .ofNat p.authorities.length
    additionals := .ofNat p.additionals.length }

def records : List Record := p.answers ++ (p.authorities ++ p.additionals)

def bytes : Bytes :=
  Wire.encode p.header ++ (p.asked ++ (p.tail ++ p.records.flatMap Record.bytes))

/-- The record that comes first in a message, of whatever section. Its data begin at `off`, and
`data` is what the message has from there on. -/
structure FirstRecord (r : Record) (off : Nat) (data : Bytes) : Prop where
  first : p.records.head? = some r
  offset_eq : off = headerLength + p.asked.length + 4 + r.owner.length + 10
  data_eq : data = r.data ++ p.records.tail.flatMap Record.bytes

variable {p} {r : Record} {off : Nat} {data : Bytes}

/-- The header announces the answers that there are. -/
lemma toNat_answers : p.header.answers.toNat = p.answers.length :=
  UInt16.toNat_ofNat_of_lt' p.length_answers

lemma head?_records_of_answers (h : 1 ≤ p.header.answers.toNat) :
    p.records.head? = p.answers.head? := by
  rw [toNat_answers] at h
  obtain ⟨r, rest, hanswers⟩ := List.exists_cons_of_length_pos h
  rw [records, hanswers]
  rfl

lemma head?_records_of_no_answers (h : p.header.answers.toNat = 0) :
    p.records.head? = (p.authorities ++ p.additionals).head? := by
  rw [toNat_answers] at h
  rw [records, List.eq_nil_of_length_eq_zero h, List.nil_append]

namespace FirstRecord

/-- What stands behind the question begins with the first record. -/
lemma flatMap_records (h : p.FirstRecord r off data) :
    p.records.flatMap Record.bytes =
      r.owner ++ ((r.fixed ++ ofWord16 (.ofNat r.data.length)) ++ data) := by
  obtain ⟨rest, hrest⟩ := List.head?_eq_some_iff.1 h.first
  rw [h.data_eq, hrest, List.flatMap_cons, List.tail_cons, Record.bytes]
  simp only [List.append_assoc]

/-- With four bytes from its data on, the first record is an answer to look at. -/
lemma exists_response (h : p.FirstRecord r off data) (hroom : 4 ≤ data.length) :
    ∃ q : Response, q.bytes = p.bytes ∧ q.addressOffset = off ∧ q.data = data := by
  let q : Response :=
    { header := Wire.encode p.header
      asked := p.asked
      tail := p.tail
      owner := r.owner
      fixed := r.fixed ++ ofWord16 (.ofNat r.data.length)
      data
      length_header := LawfulWire.length_encode p.header
      wireName_asked := p.wireName_asked
      length_tail := p.length_tail
      wireName_owner := r.wireName_owner
      length_fixed := by rw [List.length_append, r.length_fixed]; rfl
      length_data := hroom }
  refine ⟨q, ?_, ?_, rfl⟩
  · rw [Message.bytes, h.flatMap_records, Response.bytes, Response.front]
    simp only [q, List.append_assoc]
  · rw [q.addressOffset_eq, h.offset_eq]

/-- The data of the first record are found at their place. -/
lemma drop_bytes (h : p.FirstRecord r off data) (hroom : 4 ≤ data.length) :
    p.bytes.drop off = data := by
  obtain ⟨q, hq, hoff, hdata⟩ := h.exists_response hroom
  rw [← hq, ← hoff, ← hdata, Response.bytes, Response.addressOffset, List.drop_left]

end FirstRecord

/-- A message that can be taken apart as a response has a first record, with the same data. -/
lemma exists_firstRecord {q : Response} (hq : q.bytes = p.bytes) :
    ∃ r, p.FirstRecord r q.addressOffset q.data := by
  rw [Response.bytes, Response.front, bytes] at hq
  simp only [List.append_assoc] at hq
  have hheader : q.header.length = (Wire.encode p.header).length :=
    q.length_header.trans (LawfulWire.length_encode p.header).symm
  obtain ⟨-, hbehind⟩ := List.append_inj hq hheader
  obtain ⟨hasked, hrest⟩ := q.wireName_asked.append_inj p.wireName_asked hbehind
  obtain ⟨-, hrecords⟩ := List.append_inj hrest (q.length_tail.trans p.length_tail.symm)
  cases hlist : p.records with
  | nil =>
    have hlength := congrArg List.length hrecords
    have hfixed := q.length_fixed
    rw [hlist, List.flatMap_nil, List.length_append, List.length_append, List.length_nil] at hlength
    omega
  | cons r rest =>
    have hfirst : p.FirstRecord r (headerLength + p.asked.length + 4 + r.owner.length + 10)
        (r.data ++ rest.flatMap Record.bytes) :=
      ⟨by rw [hlist, List.head?_cons], rfl, by rw [hlist, List.tail_cons]⟩
    rw [hfirst.flatMap_records] at hrecords
    obtain ⟨howner, hfixed⟩ := q.wireName_owner.append_inj r.wireName_owner hrecords
    have hlength : q.fixed.length = (r.fixed ++ ofWord16 (.ofNat r.data.length)).length := by
      rw [List.length_append, r.length_fixed, q.length_fixed]
      rfl
    obtain ⟨-, hdata⟩ := List.append_inj hfixed hlength
    rw [q.addressOffset_eq, hasked, howner, hdata]
    exact ⟨r, hfirst⟩

/-- An address is found where a message has a first record and four bytes from its data on. -/
lemma answerOffset_eq_ok_iff : answerOffset p.bytes = .ok off ↔
    ∃ r data, p.FirstRecord r off data ∧ 4 ≤ data.length := by
  constructor
  · intro h
    have hwalk := answerWalk_answerOffset p.bytes
    rw [h] at hwalk
    cases hwalk with
    | found q hq =>
      obtain ⟨r, hfirst⟩ := exists_firstRecord hq
      exact ⟨r, q.data, hfirst, q.length_data⟩
  · rintro ⟨r, data, hfirst, hroom⟩
    obtain ⟨q, hq, hoff, -⟩ := hfirst.exists_response hroom
    rw [← hq, q.answerOffset_bytes, hoff]

end Message

/-! ### The header plays no part -/

lemma le_of_nameEnd {limit off stop : Nat} {b : Bytes} (h : nameEnd limit off b = .ok stop) :
    off ≤ stop := by
  fun_induction nameEnd limit off b with
  | case1 off => cases h
  | case2 off rest => cases h; omega
  | case3 off v rest hv hbits => cases h; omega
  | case4 off v rest hv hbits ih => exact Nat.le_trans (by omega) (ih h)

/-- Messages of one length that are the same behind their headers. -/
lemma answerOffset_congr {m m' : Bytes} (hlength : m.length = m'.length)
    (hdrop : m.drop headerLength = m'.drop headerLength) : answerOffset m = answerOffset m' := by
  have hskip {off : Nat} (hoff : headerLength ≤ off) : skipName m off = skipName m' off := by
    obtain ⟨k, rfl⟩ := Nat.exists_eq_add_of_le hoff
    rw [skipName, skipName, hlength, ← List.drop_drop, ← List.drop_drop, hdrop]
  rw [answerOffset, answerOffset, hskip (Nat.le_refl _)]
  cases hquestion : skipName m' headerLength with
  | error e => rfl
  | ok question =>
    have hle : headerLength ≤ question := le_of_nameEnd hquestion
    simp only [bind, Except.bind]
    rw [hskip (Nat.le_add_right_of_le hle), hlength]

lemma answerOffset_overwrite (m : Bytes) (header : DnsHeader) :
    answerOffset (overwrite m 0 (Wire.encode header)) = answerOffset m := by
  have hheader : (Wire.encode header).length = headerLength := LawfulWire.length_encode header
  refine answerOffset_congr (length_overwrite ..) (ext_byteAt ?_ fun i _ => ?_)
  · rw [List.length_drop, List.length_drop, length_overwrite]
  · rw [byteAt_drop, byteAt_drop, byteAt_overwrite, if_neg (by omega)]

end Dns

/-! ### Lookups -/

namespace Received

/-- What is read from the received frame is what the first record has there. -/
lemma AnswersQuery.answeredAddress_of_firstRecord {server : Ipv4Addr} {port id : UInt16} {b : Bytes}
    {p : Dns.Message} {r : Dns.Record} {off : Nat} {data : Bytes}
    (h : AnswersQuery server port id b) (hb : datagramData b = p.bytes)
    (hfirst : p.FirstRecord r off data) (hroom : 4 ≤ data.length) :
    answeredAddress b = .ok ⟨udpDataOffset + off, Wire.decode data 0⟩ := by
  have hoff : Dns.answerOffset (datagramData b) = .ok off := by
    rw [hb]
    exact Dns.Message.answerOffset_eq_ok_iff.2 ⟨r, data, hfirst, hroom⟩
  obtain ⟨-, hmessage, -⟩ := h.slice_address hoff
  have hdata : slice data 0 4 = (Wire.decode data 0 : Ipv4Addr).octets :=
    Wire.slice_eq_encode (α := Ipv4Addr) hroom
  have hsame : (Wire.decode b (udpDataOffset + off) : Ipv4Addr).octets =
      (Wire.decode data 0 : Ipv4Addr).octets := by
    rw [← hmessage, ← hdata, hb, slice, slice, hfirst.drop_bytes hroom, Nat.add_sub_cancel_left,
      List.drop_zero, Nat.sub_zero]
  have haddress : (Wire.decode b (udpDataOffset + off) : Ipv4Addr) = Wire.decode data 0 := by
    rw [← LawfulWire.decode_encode (Wire.decode b (udpDataOffset + off) : Ipv4Addr),
      ← LawfulWire.decode_encode (Wire.decode data 0 : Ipv4Addr)]
    exact congrArg (Wire.decode · 0) hsame
  rw [answeredAddress, hoff, Except.map, haddress]

/-- An address comes from the first record of a message. -/
lemma AnswersQuery.answeredAddress_eq_ok_iff {server : Ipv4Addr} {port id : UInt16} {b : Bytes}
    {p : Dns.Message} {a : NameAnswer} (h : AnswersQuery server port id b)
    (hb : datagramData b = p.bytes) : answeredAddress b = .ok a ↔
      ∃ r off data, p.FirstRecord r off data ∧ 4 ≤ data.length ∧
        a = ⟨udpDataOffset + off, Wire.decode data 0⟩ := by
  constructor
  · intro ha
    cases hoff : Dns.answerOffset (datagramData b) with
    | error e =>
      rw [answeredAddress, hoff] at ha
      cases ha
    | ok off =>
      rw [hb] at hoff
      obtain ⟨r, data, hfirst, hroom⟩ := Dns.Message.answerOffset_eq_ok_iff.1 hoff
      rw [h.answeredAddress_of_firstRecord hb hfirst hroom] at ha
      exact ⟨r, off, data, hfirst, hroom, (Except.ok.inj ha).symm⟩
  · rintro ⟨r, off, data, hfirst, hroom, rfl⟩
    exact h.answeredAddress_of_firstRecord hb hfirst hroom

end Received

namespace Host

variable {δ : Type} [Device δ] {h : Host δ} {server : Ipv4Addr} {name : String}
  {budget n length : Nat} {hw : MacAddr} {d₁ d₂ d₃ : δ} {response : Bytes}

/-- The first frame that answers the query decides a lookup, whatever is in its message. -/
lemma result_resolveName (hname : Dns.queryLength name 1471 = .ok length)
    (hlearns : h.Learns server budget hw d₁)
    (hquery : Device.send (nameQuery h.settings hw server h.dnsTransaction name) d₁ = (.ok (), d₂))
    (hgives : Device.Gives
      (fun x => ¬ AnswersQuery server h.settings.dnsSourcePort h.dnsTransaction x) n d₂ response d₃)
    (hn : n < budget)
    (hresponse : AnswersQuery server h.settings.dnsSourcePort h.dnsTransaction response) :
    (resolveName server name budget h).1 = answeredAddress response := by
  obtain ⟨h₁, hmoved, hresolve⟩ := hlearns.resolve
  have hsettings : h₁.settings = h.settings := by rw [hmoved]
  have hid : h₁.dnsTransaction = h.dnsTransaction := by rw [hmoved]
  have hdevice : h₁.device = d₁ := by rw [hmoved]
  rw [← hsettings, ← hid, ← hdevice] at hquery
  rw [← hsettings, ← hid] at hgives hresponse
  obtain ⟨log, hsent⟩ := h₁.finish_stagedQuery server hw hname
  rw [hquery] at hsent
  obtain ⟨h', hawaited, hwait⟩ := waitFor_of_gives
    (h := { h₁ with
      device := d₂
      frame := ((h₁.stagedQuery server name hw).answerUdp h₁.settings length).frame
      dnsTransaction := h₁.dnsTransaction + 1
      log := log })
    (hgives.mono fun x hx => dnsAnswer?_eq_none.2 hx)
    (dnsAnswer?_eq_some.2 ⟨hresponse, rfl⟩) hresponse.ne_nil hn
  rw [resolveName_of_written hresolve hname, Task.bind_apply, hsent]
  dsimp only [Except.mapError]
  rw [Task.bind_apply, hwait]
  dsimp only
  rw [(readAnswer_eq h' name (datagramData response) (n + 1)).1, answeredAddress]
  cases hoff : Dns.answerOffset (datagramData response) with
  | error e => rfl
  | ok off =>
    have haddress : h'.frame.get Ipv4Addr (udpDataOffset + off) =
        Wire.decode response (udpDataOffset + off) :=
      hawaited.holds.get_eq (hresponse.slice_address hoff).1
    rw [Except.map, Except.map, haddress]

end Host

/-- **The first record decides**, of whatever section it is. No header makes a difference to where
an address is found. In a message it is found just where the first record behind the question has
its data, if four bytes are there, those of later records included; this is an answer if the header
announces one, and an authority or an additional record if not. A lookup whose query such a message
answers has these four bytes as its result, and without them it fails. -/
theorem first_record_decides {δ : Type} [Device δ] (h : Host δ) :
    (∀ (m : Bytes) (header : DnsHeader),
      Dns.answerOffset (overwrite m 0 (Wire.encode header)) = Dns.answerOffset m) ∧
    (∀ (p : Dns.Message) (off : Nat), Dns.answerOffset p.bytes = .ok off ↔
      ∃ r data, p.FirstRecord r off data ∧ 4 ≤ data.length) ∧
    (∀ (p : Dns.Message) (r : Dns.Record) (off : Nat) (data : Bytes), p.FirstRecord r off data →
      (1 ≤ p.header.answers.toNat → p.answers.head? = some r) ∧
      (p.header.answers.toNat = 0 → (p.authorities ++ p.additionals).head? = some r)) ∧
    ∀ (server : Ipv4Addr) (name : String) (budget n length : Nat) (hw : MacAddr) (d₁ d₂ d₃ : δ)
      (response : Bytes) (p : Dns.Message),
      Dns.queryLength name 1471 = .ok length →
      h.Learns server budget hw d₁ →
      Device.send (nameQuery h.settings hw server h.dnsTransaction name) d₁ = (.ok (), d₂) →
      Device.Gives (fun x => ¬ AnswersQuery server h.settings.dnsSourcePort h.dnsTransaction x) n d₂
        response d₃ →
      n < budget →
      AnswersQuery server h.settings.dnsSourcePort h.dnsTransaction response →
      datagramData response = p.bytes →
        ∀ a, (Host.resolveName server name budget h).1 = .ok a ↔
          ∃ r off data, p.FirstRecord r off data ∧ 4 ≤ data.length ∧
            a = ⟨udpDataOffset + off, Wire.decode data 0⟩ := by
  refine ⟨Dns.answerOffset_overwrite, fun _ _ => Dns.Message.answerOffset_eq_ok_iff, ?_, ?_⟩
  · intro p r off data hfirst
    constructor
    · intro hanswers
      rw [← Dns.Message.head?_records_of_answers hanswers, hfirst.first]
    · intro hanswers
      rw [← Dns.Message.head?_records_of_no_answers hanswers, hfirst.first]
  · intro server name budget n length hw d₁ d₂ d₃ response p hname hlearns hquery hgives hn
      hresponse hdata a
    rw [Host.result_resolveName hname hlearns hquery hgives hn hresponse]
    exact hresponse.answeredAddress_eq_ok_iff hdata

/-! ### A name without an address -/

namespace Dns

/-- The start of authority of the zone `b`: its server `ns.b`, a mailbox and five numbers. -/
def startOfAuthority : Record where
  owner := [0xC0, 0x0E]
  fixed := [0, 6, 0, 1, 0, 0, 0, 60]
  data := [2, 0x6e, 0x73, 0xC0, 0x0E, 1, 0x68, 0xC0, 0x0E] ++
    [0, 0, 0, 1, 0, 0, 0, 60, 0, 0, 0, 60, 0, 0, 0, 60, 0, 0, 0, 60]
  wireName_owner := .pointer 0x0E (by decide)
  length_fixed := rfl
  length_data := by decide

/-- There is no address for `a.b`, and an authority says so. -/
def noAddress : Message where
  id := 0x0100
  flags := 0x8180
  asked := [1, 0x61, 1, 0x62, 0]
  tail := questionTail
  answers := []
  authorities := [startOfAuthority]
  additionals := []
  wireName_asked := by
    have hlabels : ∀ l ∈ ([[0x61], [0x62]] : List Bytes), isLabel l = true := by decide
    exact wireName_of_labels hlabels .root
  length_tail := rfl
  length_answers := by decide
  length_authorities := by decide
  length_additionals := by decide

end Dns

def noAddressFromServer : Bytes :=
  [0x02, 0, 0, 0, 0, 0x01, 0x02, 0, 0, 0, 0, 0x02, 0x08, 0x00,
    0x45, 0, 0, 90, 0, 0, 0, 0, 64, 17, 0, 0, 10, 0, 0, 2, 10, 0, 0, 1,
    0, 53, 0xC0, 0x01, 0, 70, 0, 0] ++ Dns.noAddress.bytes

lemma answersQuery_noAddressFromServer :
    AnswersQuery ⟨10, 0, 0, 2⟩ 49153 0x0100 noAddressFromServer :=
  ⟨⟨by decide, by decide, by decide, by decide⟩, by decide, by decide, by decide, by decide,
    by decide, by decide, by decide⟩

lemma datagramData_noAddressFromServer :
    datagramData noAddressFromServer = Dns.noAddress.bytes := by
  decide +kernel

lemma queryLength_ab : Dns.queryLength "a.b" 1471 = .ok 21 := by decide +kernel

/-- The name of the zone's server is given as an address. -/
theorem first_record_decides_noAddress :
    Dns.noAddress.header.answers = 0 ∧ datagramData noAddressFromServer = Dns.noAddress.bytes ∧
      (Host.resolveName ⟨10, 0, 0, 2⟩ "a.b" 1 (Host.withServer noAddressFromServer)).1 =
        .ok ⟨75, ⟨2, 0x6e, 0x73, 0xC0⟩⟩ := by
  have hdata := datagramData_noAddressFromServer
  obtain ⟨-, -, -, hlookup⟩ := first_record_decides (Host.withServer noAddressFromServer)
  refine ⟨by decide, hdata, ?_⟩
  rw [hlookup ⟨10, 0, 0, 2⟩ "a.b" 1 0 21 _ _ _ _ noAddressFromServer Dns.noAddress queryLength_ab
    (learns_withServer _) rfl (.here rfl) Nat.one_pos answersQuery_noAddressFromServer hdata]
  exact ⟨Dns.startOfAuthority, 33, Dns.startOfAuthority.data, ⟨rfl, rfl, rfl⟩, by decide, rfl⟩

/-- **An address without an answer.** An offset is found in a message that announces no answer, and
a lookup with this message for its response succeeds. -/
theorem authority_taken_for_answer :
    (¬ ∀ (m : Bytes) (off : Nat), Dns.answerOffset m = .ok off →
      1 ≤ (Wire.decode m 0 : DnsHeader).answers.toNat) ∧
    (Wire.decode (datagramData noAddressFromServer) 0 : DnsHeader).answers = 0 ∧
    ∃ a, (Host.resolveName ⟨10, 0, 0, 2⟩ "a.b" 1 (Host.withServer noAddressFromServer)).1 =
      .ok a := by
  have hdata := datagramData_noAddressFromServer
  have hoff : Dns.answerOffset Dns.noAddress.bytes = .ok 33 := by decide +kernel
  have hnone : (Wire.decode Dns.noAddress.bytes 0 : DnsHeader).answers = 0 := by decide +kernel
  refine ⟨fun hall => ?_, by rw [hdata, hnone], ?_⟩
  · have hannounced := hall Dns.noAddress.bytes 33 hoff
    rw [hnone] at hannounced
    exact absurd hannounced (by decide)
  · have hresult :
        (Host.resolveName ⟨10, 0, 0, 2⟩ "a.b" 1 (Host.withServer noAddressFromServer)).1 =
          answeredAddress noAddressFromServer :=
      Host.result_resolveName queryLength_ab (learns_withServer _) rfl (.here rfl) Nat.one_pos
        answersQuery_noAddressFromServer
    rw [answeredAddress, hdata, hoff] at hresult
    exact ⟨_, hresult⟩

end PacketHost
