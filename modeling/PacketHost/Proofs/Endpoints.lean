import Mathlib.Algebra.Ring.Parity
import PacketHost.Proofs.Retrying

/-!
Between whom the frames go that answer one record one after the other.

The first answers the record, and each of the others answers the frame before it (`answersTo`),
since that is what stands in the buffer by then. An answer to a datagram goes the way back. An
answer to a segment goes back to the other address, but its ports stay in their places, because
those have been exchanged when the segment was received. What holds of the frames of a run follows
by induction from what holds of one answer.
-/

namespace PacketHost

open Bytes Checksum Received

/-- Where a datagram or a segment comes from and where it goes. -/
structure Endpoints where
  src : Ipv4Addr
  srcPort : UInt16
  dst : Ipv4Addr
  dstPort : UInt16
  deriving DecidableEq

namespace Endpoints

/-- The way back. -/
def reversed (e : Endpoints) : Endpoints := ⟨e.dst, e.dstPort, e.src, e.srcPort⟩

/-- The addresses in exchanged places, the ports where they were. -/
def crossed (e : Endpoints) : Endpoints := ⟨e.dst, e.srcPort, e.src, e.dstPort⟩

/-- The same address with the same port at either end, in whichever order. -/
def Joins (e e' : Endpoints) : Prop := e' = e ∨ e' = e.reversed

/-- What an answer makes of the endpoints of the record in the buffer. -/
def answered : Transport → Endpoints → Endpoints
  | .udp => reversed
  | .tcp => crossed

instance (e e' : Endpoints) : Decidable (e.Joins e') := inferInstanceAs (Decidable (_ ∨ _))

@[simp] lemma reversed_reversed (e : Endpoints) : e.reversed.reversed = e := rfl

@[simp] lemma crossed_crossed (e : Endpoints) : e.crossed.crossed = e := rfl

lemma involutive_answered (t : Transport) : (answered t).Involutive := by
  intro e
  cases t with
  | udp => exact e.reversed_reversed
  | tcp => exact e.crossed_crossed

/-- Every other time the endpoints are what they were. -/
lemma iterate_answered (t : Transport) (e : Endpoints) (k : Nat) :
    (answered t)^[k] e = if Even k then e else answered t e := by
  split
  next heven => rw [(involutive_answered t).iterate_even heven, id]
  next hodd => rw [(involutive_answered t).iterate_odd (Nat.not_even_iff_odd.1 hodd)]

/-- The way back with the addresses exchanged once more joins two others, unless the addresses or
the ports are the same at both ends. -/
lemma joins_reversed_crossed_iff (e : Endpoints) :
    e.Joins e.reversed.crossed ↔ e.src = e.dst ∨ e.srcPort = e.dstPort := by
  obtain ⟨src, srcPort, dst, dstPort⟩ := e
  simp only [Joins, crossed, reversed, mk.injEq, true_and, and_true]
  constructor
  · rintro (⟨hport, -⟩ | ⟨haddress, -⟩)
    · exact .inr hport.symm
    · exact .inl haddress
  · rintro (haddress | hport)
    · exact .inr ⟨haddress, haddress.symm⟩
    · exact .inl ⟨hport.symm, hport⟩

end Endpoints

/-- A datagram to a peer, by its header and its data. Its checksum is the one that the settings ask
for. -/
lemma datagramTo_checks (s : Settings) (peer : Ipv4Addr) (srcPort dstPort : UInt16) (data : Bytes) :
    ∃ header : UdpHeader,
      header.srcPort = srcPort ∧ header.dstPort = dstPort ∧
        header.length = .ofNat (8 + (padded data).length) ∧
        datagramTo s peer srcPort dstPort data = Wire.encode header ++ padded data ∧
        if s.fillUdpChecksums then
          header.checksum ≠ 0 ∧
            pseudoHeaderChecksum s.ip peer IpProtocol.udp (Wire.encode header ++ padded data) = 0
        else header.checksum = 0 := by
  refine ⟨_, rfl, rfl, rfl, rfl, ?_⟩
  generalize hcleared : Wire.encode (UdpHeader.mk srcPort dstPort
    (.ofNat (8 + (padded data).length)) 0) ++ padded data = cleared
  cases s.fillUdpChecksums with
  | false => rfl
  | true =>
    have hlen : 6 + 2 ≤ cleared.length := by
      rw [← hcleared, List.length_append, LawfulWire.length_encode]
      exact Nat.le_add_right 8 _
    have hzero : word16At cleared 6 = 0 := by
      rw [← hcleared]
      exact congrArg UdpHeader.checksum (decode_append (x := []) _ rfl)
    have hwritten (sum : UInt16) : Wire.encode (UdpHeader.mk srcPort dstPort
        (.ofNat (8 + (padded data).length)) sum) ++ padded data =
          overwrite cleared 6 (ofWord16 sum) := by
      simp [← hcleared, Wire.encode, ofWord16, overwrite]
    refine ⟨udpChecksum_ne_zero _ _ _, ?_⟩
    rw [pseudoHeaderChecksum_comm, if_pos rfl, hwritten]
    exact udpChecksum_fill rfl hlen hzero peer s.ip

namespace Received

/-- The endpoints of a frame. The ports are in the same place whatever the transport. -/
def endpoints (b : Bytes) : Endpoints :=
  ⟨(ip b).src, (udp b).srcPort, (ip b).dst, (udp b).dstPort⟩

lemma endpoints_eq_tcp (b : Bytes) :
    endpoints b = ⟨(ip b).src, (tcp b).srcPort, (ip b).dst, (tcp b).dstPort⟩ :=
  rfl

variable (s : Settings) (r : Registry) (t : Transport)

/-- The frames with these payloads, the first one in answer to this record and every other in answer
to the frame before. -/
def answersTo : List Bytes → Bytes → List Bytes
  | [], _ => []
  | data :: rest, b => answerTo s r data b t :: answersTo rest (answerTo s r data b t)

@[simp] lemma length_answersTo (payloads : List Bytes) (b : Bytes) :
    (answersTo s r t payloads b).length = payloads.length := by
  induction payloads generalizing b with
  | nil => rfl
  | cons data rest ih => simp [answersTo, ih]

variable {s r t} {data b : Bytes}

/-! ### One answer -/

lemma src_answerTo : (ip (answerTo s r data b t)).src = (ip b).dst := by
  rw [ip_answerTo]
  rfl

lemma dst_answerTo : (ip (answerTo s r data b t)).dst = (ip b).src := by
  rw [ip_answerTo]
  rfl

lemma id_answerTo : (ip (answerTo s r data b t)).id = (ip b).id := by
  rw [ip_answerTo]
  rfl

lemma endpoints_answerTo (s : Settings) (r : Registry) (data b : Bytes) (t : Transport) :
    endpoints (answerTo s r data b t) = (endpoints b).answered t := by
  cases t with
  | udp =>
    obtain ⟨header, hsrc, hdst, -, hdatagram, -⟩ := datagramTo_checks { s with ip := (ip b).dst }
      (ip b).src (udp b).dstPort (udp b).srcPort data
    have hudp : udp (answerTo s r data b .udp) = header :=
      decode_of_drop ((drop_answerTo s r data b .udp).trans hdatagram)
    rw [endpoints, src_answerTo, dst_answerTo, hudp, hsrc, hdst]
    rfl
  | tcp =>
    obtain ⟨sum, htcp⟩ := tcp_answerTo s r data (b := b)
    have hports : (ackedHeader r data b).srcPort = (tcp b).srcPort ∧
        (ackedHeader r data b).dstPort = (tcp b).dstPort := by
      unfold ackedHeader
      split <;> exact ⟨rfl, rfl⟩
    rw [endpoints_eq_tcp, src_answerTo, dst_answerTo, htcp]
    dsimp only
    rw [hports.1, hports.2]
    rfl

/-! ### A run of answers -/

/-- Each frame of a run answers some record with its payload. That record has the endpoints of the
first one every other time, and its identifier at all times. -/
lemma exists_of_answersTo {payloads : List Bytes} {k : Nat} {frame : Bytes}
    (h : (answersTo s r t payloads b)[k]? = some frame) : ∃ data base,
      payloads[k]? = some data ∧ frame = answerTo s r data base t ∧
        endpoints base = (Endpoints.answered t)^[k] (endpoints b) ∧ (ip base).id = (ip b).id := by
  induction payloads generalizing b k with
  | nil => cases h
  | cons first rest ih =>
    cases k with
    | zero =>
      cases h
      exact ⟨first, b, rfl, rfl, rfl, rfl⟩
    | succ k =>
      obtain ⟨data, base, hdata, hframe, hends, hid⟩ := ih h
      refine ⟨data, base, hdata, hframe, ?_, ?_⟩
      · rw [hends, endpoints_answerTo, Function.iterate_succ_apply]
      · rw [hid, id_answerTo]

lemma endpoints_of_answersTo {payloads : List Bytes} {k : Nat} {frame : Bytes}
    (h : (answersTo s r t payloads b)[k]? = some frame) :
    endpoints frame = (Endpoints.answered t)^[k] ((endpoints b).answered t) := by
  obtain ⟨data, base, -, rfl, hends, -⟩ := exists_of_answersTo h
  rw [endpoints_answerTo, hends, ← Function.iterate_succ_apply' (Endpoints.answered t),
    Function.iterate_succ_apply]

/-- A datagram with this data, and with no more behind it than the padding. -/
structure SendsDatagram (s : Settings) (id : UInt16) (e : Endpoints) (data frame : Bytes) :
    Prop where
  payload : frame.drop udpDataOffset = if data.length % 2 = 0 then data else data ++ [0]
  length : (udp frame).length.toNat = 8 + evenLength data.length
  protocol : (ip frame).protocol = IpProtocol.udp
  totalLength : (ip frame).totalLength.toNat = 28 + evenLength data.length
  id_eq : (ip frame).id = id
  endpoints_eq : endpoints frame = e
  headerSum : (ip frame).checksumValid = true
  sum : if s.fillUdpChecksums then
      (udp frame).checksum ≠ 0 ∧ pseudoHeaderChecksum (ip frame).src (ip frame).dst IpProtocol.udp
        (frame.drop transportOffset) = 0
    else (udp frame).checksum = 0

/-- A datagram is answered with the data that is asked for, on the way back. -/
lemma sendsDatagram_answerTo (s : Settings) (r : Registry) (b : Bytes) (hlen : data.length ≤ 1471) :
    SendsDatagram s (ip b).id (endpoints b).reversed data (answerTo s r data b .udp) := by
  obtain ⟨header, -, -, hlength, hdatagram, hsum⟩ :=
    datagramTo_checks { s with ip := (ip b).dst } (ip b).src (udp b).dstPort (udp b).srcPort data
  have heven := evenLength_le data.length
  have hdrop : (answerTo s r data b .udp).drop transportOffset =
      Wire.encode header ++ padded data :=
    (drop_answerTo s r data b .udp).trans hdatagram
  have hudp : udp (answerTo s r data b .udp) = header := decode_of_drop hdrop
  have htotal : (answerPayload s r data b .udp).length = 8 + evenLength data.length := by
    rw [answerPayload, hdatagram, List.length_append, LawfulWire.length_encode, length_padded]
    rfl
  exact {
    payload := drop_of_drop hdrop
    length := by
      rw [hudp, hlength, length_padded, UInt16.toNat_ofNat']
      omega
    protocol := by
      rw [ip_answerTo]
      rfl
    totalLength := by
      rw [ip_answerTo, htotal]
      show (UInt16.ofNat (20 + (8 + evenLength data.length))).toNat = 28 + evenLength data.length
      rw [UInt16.toNat_ofNat']
      omega
    id_eq := id_answerTo
    endpoints_eq := endpoints_answerTo s r data b .udp
    headerSum := by
      rw [ip_answerTo, Ipv4Header.checksumValid, checksum_withChecksum, beq_self_eq_true]
    sum := by
      rw [hudp, hdrop, src_answerTo, dst_answerTo]
      exact hsum }

end Received

end PacketHost
