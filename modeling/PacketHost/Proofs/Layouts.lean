import PacketHost.Arp
import PacketHost.Icmp
import PacketHost.Proofs.Names
import PacketHost.Tcp
import PacketHost.Udp

/-!
Headers at the front of a buffer.

A reply is made in the buffer of its request: headers are read there, changed and written back. What
makes this safe is one and the same of every header. Written where it fits, it takes the place of
its own bytes and leaves the others alone, and it is read back from there. Read from any bytes that
are enough and written back, it leaves all of them as they were, so there is no bit of a header that
its fields do not carry.

`Wire.RoundTrips` says this of one kind of header with its width. It holds of every lawful layout.
-/

namespace PacketHost

open Bytes

namespace Wire

/-- What is promised of a header of `n` bytes, by its two directions together. -/
structure RoundTrips (α : Type) [Wire α] (n : Nat) : Prop where
  /-- The header stands in front of what was behind the old one, and is read back. -/
  parse_write (a : α) {out : Bytes} (h : n ≤ out.length) :
    ∃ out', write? a out = some out' ∧ parse? out' = some a ∧
      out'.length = out.length ∧ out'.drop n = out.drop n
  /-- A buffer of just the right size becomes the header. -/
  write_whole (a : α) {out : Bytes} (h : out.length = n) : write? a out = some (encode a)
  /-- A buffer that is too short takes no header. -/
  write_none (a : α) {out : Bytes} (h : out.length < n) : write? a out = none
  /-- Only the length can stand against reading. -/
  parse_none (d : Bytes) : (parse? d : Option α) = none ↔ d.length < n
  /-- No bit is lost on the way through the fields. -/
  write_parse {d : Bytes} {a : α} (h : parse? d = some a) : write? a d = some d
  /-- What is behind the header does not matter. -/
  parse_congr {d d' : Bytes} (h : d.take n = d'.take n) : (parse? d : Option α) = parse? d'

section Front

variable {α : Type} [Wire α] {b : Bytes}

lemma parse?_of_le (h : width α ≤ b.length) : (parse? b : Option α) = some (decode b 0) := if_pos h

lemma write?_of_le {a : α} (h : width α ≤ b.length) :
    write? a b = some (overwrite b 0 (encode a)) := if_pos h

lemma parse?_eq_none_iff : (parse? b : Option α) = none ↔ b.length < width α := by
  rw [parse?, ite_eq_right_iff, ← not_le]
  exact ⟨fun h hle => Option.some_ne_none _ (h hle), fun h hle => absurd hle h⟩

variable [LawfulWire α]

/-- The header, and what was behind it. -/
lemma overwrite_encode (a : α) (h : width α ≤ b.length) :
    overwrite b 0 (encode a) = encode a ++ b.drop (width α) := by
  rw [overwrite_zero (by rwa [LawfulWire.length_encode]), LawfulWire.length_encode]

lemma drop_overwrite_encode (a : α) (h : width α ≤ b.length) :
    (overwrite b 0 (encode a)).drop (width α) = b.drop (width α) := by
  rw [overwrite_encode a h, List.drop_left' (LawfulWire.length_encode a)]

/-- A header is read from as many bytes as it has. -/
lemma parse?_take : (parse? (b.take (width α)) : Option α) = parse? b := by
  rcases Nat.lt_or_ge b.length (width α) with hshort | hlong
  · rw [List.take_of_length_le hshort.le]
  · have htake : (b.take (width α)).length = width α := List.length_take_of_le hlong
    rw [parse?_of_le htake.ge, parse?_of_le hlong]
    congr 1
    apply decode_congr
    intro i hi
    rw [byteAt_take, Nat.zero_add, if_pos hi]

end Front

/-- Every lawful layout round-trips, with the width it states. -/
lemma roundTrips (α : Type) [Wire α] [LawfulWire α] : RoundTrips α (width α) where
  parse_write a out h := by
    have hlen : width α ≤ (overwrite out 0 (encode a)).length := by rwa [length_overwrite]
    refine ⟨overwrite out 0 (encode a), write?_of_le h, ?_, length_overwrite .., ?_⟩
    · rw [parse?_of_le hlen, decode_overwrite a (by rwa [Nat.zero_add])]
    · exact drop_overwrite_encode a h
  write_whole a out h := by
    rw [write?_of_le h.ge, overwrite_encode a h.ge, ← h, List.drop_length, List.append_nil]
  write_none a out h := if_neg (not_le.2 h)
  parse_none d := parse?_eq_none_iff
  write_parse {d a} h := by
    have hlen : width α ≤ d.length := by
      by_contra hshort
      rw [parse?_eq_none_iff.2 (not_le.1 hshort)] at h
      exact Option.some_ne_none a h.symm
    rw [parse?_of_le hlen, Option.some_inj] at h
    rw [write?_of_le hlen, ← h, overwrite_encode_decode]
  parse_congr {d d'} h := by
    rw [← parse?_take, h, parse?_take]

end Wire

/-- **Headers lose nothing and touch nothing else.** Each of the seven kinds round-trips in both
directions over the front of any buffer, with the width that its protocol gives it. -/
theorem headers_roundTrip :
    Wire.RoundTrips EthernetHeader 14 ∧ Wire.RoundTrips ArpPacket 28 ∧
      Wire.RoundTrips Ipv4Header 20 ∧ Wire.RoundTrips IcmpHeader 8 ∧
      Wire.RoundTrips UdpHeader 8 ∧ Wire.RoundTrips TcpHeader 20 ∧
      Wire.RoundTrips DnsHeader 12 :=
  ⟨Wire.roundTrips _, Wire.roundTrips _, Wire.roundTrips _, Wire.roundTrips _, Wire.roundTrips _,
    Wire.roundTrips _, Wire.roundTrips _⟩

end PacketHost
