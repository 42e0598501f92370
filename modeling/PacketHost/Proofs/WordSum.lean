import Mathlib.Tactic.Lemma
import PacketHost.Icmp
import PacketHost.Ipv4
import PacketHost.Udp

/-!
The checksum as a sum of natural numbers.

The accumulator folds after every word, so its total is never the plain sum of the words but the
plain sum brought into `0 .. 65535` by casting out `65535`; only the sum of no words, or of zero
words, stays zero. A record checks if its plain sum is a positive multiple of `65535`. This makes a
checksum field linear: what is written into it is added to the plain sum, and the complement of the
folded sum is just what is missing to the next multiple.
-/

namespace PacketHost

open Bytes

namespace Checksum

/-- The plain sum of the 16-bit words; a last odd byte is a high byte. -/
def wordSum : Bytes → Nat
  | high :: low :: rest => (word16 high low).toNat + wordSum rest
  | [high] => (word16 high 0).toNat
  | [] => 0

/-- A number brought into `0 .. 65535` with its remainder kept, where only zero becomes zero. -/
def onesSum (n : Nat) : Nat := if n = 0 then 0 else (n - 1) % 65535 + 1

lemma onesSum_le (n : Nat) : onesSum n ≤ 65535 := by
  unfold onesSum
  split <;> omega

lemma onesSum_eq_iff (n : Nat) : onesSum n = 65535 ↔ 0 < n ∧ n % 65535 = 0 := by
  unfold onesSum
  split <;> omega

/-- The number that is missing to a positive multiple of `65535`. -/
lemma onesSum_add_complement (n : Nat) : onesSum (n + (65535 - onesSum n)) = 65535 := by
  rw [onesSum_eq_iff]
  unfold onesSum
  split <;> omega

lemma toNat_fold (t : UInt32) : (fold t).toNat = t.toNat % 65536 + t.toNat / 65536 := by
  have := t.toNat_lt
  rw [fold, UInt32.toNat_add, UInt32.toNat_mod, UInt32.toNat_div]
  show (t.toNat % 65536 + t.toNat / 65536) % 2 ^ 32 = _
  omega

namespace Accumulator

variable {acc : Accumulator} {n : Nat}

lemma total_addWord (h : acc.total.toNat = onesSum n) (w : UInt16) :
    (acc.addWord w).total.toNat = onesSum (n + w.toNat) := by
  have hle := onesSum_le n
  have hw := w.toNat_lt
  have hsum : (acc.total + w.toUInt32).toNat = onesSum n + w.toNat := by
    rw [UInt32.toNat_add, UInt16.toNat_toUInt32, h]
    omega
  rw [addWord, toNat_fold, hsum]
  unfold onesSum
  split <;> split <;> omega

lemma total_add (h : acc.total.toNat = onesSum n) (data : Bytes) :
    (acc.add data).total.toNat = onesSum (n + wordSum data) := by
  fun_induction add acc data generalizing n with
  | case1 acc high low rest ih =>
    rw [ih (total_addWord h _), wordSum, Nat.add_assoc]
  | case2 acc high => exact total_addWord h _
  | case3 acc => simpa [wordSum] using h

lemma toNat_sum (h : acc.total.toNat = onesSum n) : acc.sum.toNat = onesSum n := by
  have hle := onesSum_le n
  rw [sum, UInt32.toNat_toUInt16, toNat_fold, toNat_fold, h]
  omega

lemma toNat_finish (h : acc.total.toNat = onesSum n) : acc.finish.toNat = 65535 - onesSum n := by
  rw [finish, UInt16.toNat_not, toNat_sum h]
  rfl

end Accumulator

lemma total_empty : ({} : Accumulator).total.toNat = onesSum 0 := rfl

end Checksum

open Checksum Accumulator

lemma toNat_checksum (data : Bytes) : (checksum data).toNat = 65535 - onesSum (wordSum data) := by
  rw [checksum, toNat_finish (total_add total_empty data), Nat.zero_add]

lemma checksum_eq_zero_iff (data : Bytes) : checksum data = 0 ↔ onesSum (wordSum data) = 65535 := by
  have := onesSum_le (wordSum data)
  rw [← UInt16.toNat_inj, toNat_checksum]
  show 65535 - onesSum (wordSum data) = 0 ↔ _
  omega

/-- What a transport checksum sums up. -/
def pseudoSum (src dst : Ipv4Addr) (protocol : UInt8) (segment : Bytes) : Nat :=
  wordSum (pseudoHeader src dst protocol segment.length) + wordSum segment

lemma toNat_pseudoHeaderChecksum (src dst : Ipv4Addr) (protocol : UInt8) (segment : Bytes) :
    (pseudoHeaderChecksum src dst protocol segment).toNat =
      65535 - onesSum (pseudoSum src dst protocol segment) := by
  rw [pseudoHeaderChecksum, toNat_finish (total_add (total_add total_empty _) _), Nat.zero_add,
    pseudoSum]

lemma pseudoHeaderChecksum_eq_zero_iff (src dst : Ipv4Addr) (protocol : UInt8) (segment : Bytes) :
    pseudoHeaderChecksum src dst protocol segment = 0 ↔
      onesSum (pseudoSum src dst protocol segment) = 65535 := by
  have := onesSum_le (pseudoSum src dst protocol segment)
  rw [← UInt16.toNat_inj, toNat_pseudoHeaderChecksum]
  show 65535 - onesSum (pseudoSum src dst protocol segment) = 0 ↔ _
  omega

/-- The two addresses of a pseudo header may change places. -/
lemma pseudoHeaderChecksum_comm (src dst : Ipv4Addr) (protocol : UInt8) (segment : Bytes) :
    pseudoHeaderChecksum src dst protocol segment =
      pseudoHeaderChecksum dst src protocol segment := by
  have hsum : pseudoSum src dst protocol segment = pseudoSum dst src protocol segment := by
    simp only [pseudoSum, pseudoHeader, Ipv4Addr.octets, List.cons_append, List.nil_append, wordSum]
    omega
  rw [← UInt16.toNat_inj, toNat_pseudoHeaderChecksum, toNat_pseudoHeaderChecksum, hsum]

/-! ### Filling in a checksum field -/

namespace Checksum

/-- A word written at an even position takes the place of the one there. -/
lemma wordSum_overwrite (b : Bytes) (k : Nat) (w : UInt16) (h : 2 * k + 2 ≤ b.length) :
    wordSum (overwrite b (2 * k) (ofWord16 w)) + (word16At b (2 * k)).toNat =
      wordSum b + w.toNat := by
  induction k generalizing b with
  | zero =>
    match b, h with
    | x :: y :: rest, _ =>
      simp only [ofWord16, Nat.mul_zero, overwrite, overwrite_nil, wordSum, word16At,
        byteAt_cons_zero, byteAt_cons_succ, word16_highByte_lowByte]
      omega
  | succ k ih =>
    match b, h with
    | x :: y :: rest, h =>
      have := ih rest (by simp only [List.length_cons] at h; omega)
      simp only [Nat.mul_add, Nat.mul_one, overwrite, wordSum, word16At, byteAt_cons_succ] at this ⊢
      omega

end Checksum

variable {b : Bytes} {off : Nat}

lemma word16At_overwrite (hlen : off + 2 ≤ b.length) (w : UInt16) :
    word16At (overwrite b off (ofWord16 w)) off = w := by
  have h : HoldsAt (overwrite b off (ofWord16 w)) off (ofWord16 w) := holdsAt_overwrite hlen
  unfold ofWord16 at h ⊢
  rw [holdsAt_cons, holdsAt_cons] at h
  rw [word16At, ← h.1, ← h.2.1, word16_highByte_lowByte]

lemma wordSum_fill (heven : off % 2 = 0) (hlen : off + 2 ≤ b.length) (hzero : word16At b off = 0)
    (w : UInt16) : wordSum (overwrite b off (ofWord16 w)) = wordSum b + w.toNat := by
  obtain ⟨k, rfl⟩ : ∃ k, off = 2 * k := ⟨off / 2, by omega⟩
  have := wordSum_overwrite b k w hlen
  rw [hzero] at this
  exact this

/-- A record checks once its checksum is in its field. -/
lemma checksum_fill (heven : off % 2 = 0) (hlen : off + 2 ≤ b.length)
    (hzero : word16At b off = 0) :
    checksum (overwrite b off (ofWord16 (checksum b))) = 0 := by
  rw [checksum_eq_zero_iff, wordSum_fill heven hlen hzero, toNat_checksum]
  exact onesSum_add_complement _

lemma pseudoSum_fill (heven : off % 2 = 0) (hlen : off + 2 ≤ b.length)
    (hzero : word16At b off = 0) (src dst : Ipv4Addr) (protocol : UInt8) (w : UInt16) :
    pseudoSum src dst protocol (overwrite b off (ofWord16 w)) =
      pseudoSum src dst protocol b + w.toNat := by
  rw [pseudoSum, pseudoSum, length_overwrite, wordSum_fill heven hlen hzero, Nat.add_assoc]

lemma pseudoHeaderChecksum_fill (heven : off % 2 = 0) (hlen : off + 2 ≤ b.length)
    (hzero : word16At b off = 0) (src dst : Ipv4Addr) (protocol : UInt8) :
    pseudoHeaderChecksum src dst protocol
      (overwrite b off (ofWord16 (pseudoHeaderChecksum src dst protocol b))) = 0 := by
  rw [pseudoHeaderChecksum_eq_zero_iff, pseudoSum_fill heven hlen hzero,
    toNat_pseudoHeaderChecksum]
  exact onesSum_add_complement _

lemma udpChecksum_ne_zero (src dst : Ipv4Addr) (datagram : Bytes) :
    udpChecksum src dst datagram ≠ 0 := by
  unfold udpChecksum
  dsimp only
  split
  · decide
  · assumption

/-- A zero sum is sent as `65535`, which adds a multiple of `65535` and so checks as well. -/
lemma udpChecksum_fill (heven : off % 2 = 0) (hlen : off + 2 ≤ b.length)
    (hzero : word16At b off = 0) (src dst : Ipv4Addr) :
    pseudoHeaderChecksum src dst IpProtocol.udp
      (overwrite b off (ofWord16 (udpChecksum src dst b))) = 0 := by
  unfold udpChecksum
  dsimp only
  split
  next hc =>
    rw [pseudoHeaderChecksum_eq_zero_iff] at hc ⊢
    rw [pseudoSum_fill heven hlen hzero]
    rw [onesSum_eq_iff] at hc ⊢
    show 0 < _ + 65535 ∧ (_ + 65535) % 65535 = 0
    omega
  next => exact pseudoHeaderChecksum_fill heven hlen hzero src dst _

lemma checksum_withChecksum (h : Ipv4Header) : checksum (Wire.encode h.withChecksum) = 0 := by
  have hfill : Wire.encode h.withChecksum =
      overwrite (Wire.encode { h with checksum := 0 }) 10
        (ofWord16 (checksum (Wire.encode { h with checksum := 0 }))) := rfl
  have hzero := congrArg Ipv4Header.checksum (LawfulWire.decode_encode { h with checksum := 0 })
  rw [hfill]
  exact checksum_fill rfl (by simp [LawfulWire.length_encode, Wire.width]) hzero

lemma checksum_fillChecksum {message : Bytes} (hlen : 4 ≤ message.length)
    (hzero : word16At message 2 = 0) : checksum (Icmp.fillChecksum message) = 0 :=
  checksum_fill rfl hlen hzero

end PacketHost
