import PacketHost.Proofs.Guarded.Primitives
import PacketHost.Proofs.WordSum

/-!
Checksums without overflow.

The accumulator is folded after every word, so that its total is below `2 ^ 16` whenever the next
word is added. This is the invariant of the loop; with it, no sum comes near 32 bits, and none of
the folds is ever needed at the end.
-/

namespace PacketHost

open Bytes Checksum

namespace Guarded

def fold (sum : UInt32) : Guarded UInt32 :=
  if 0xFFFF < sum then add32 (sum &&& 0xFFFF) (sum >>> 16) else pure sum

def addWord (acc : Accumulator) (w : UInt16) : Guarded Accumulator := do
  return ⟨← fold (← add32 acc.total w.toUInt32)⟩

def addBytes (acc : Accumulator) : Bytes → Guarded Accumulator
  | high :: low :: rest => do addBytes (← addWord acc (Bytes.word16 high low)) rest
  | [high] => addWord acc (Bytes.word16 high 0)
  | [] => pure acc

def finish (acc : Accumulator) : Guarded UInt16 := do
  return ~~~(← fold (← fold acc.total)).toUInt16

def checksum (data : Bytes) : Guarded UInt16 := do finish (← addBytes {} data)

def pseudoHeaderChecksum (src dst : Ipv4Addr) (protocol : UInt8) (segment : Bytes) :
    Guarded UInt16 := do
  let length ← word16 segment.length
  let pseudo := src.octets ++ dst.octets ++ [0, protocol] ++ ofWord16 length
  finish (← addBytes (← addBytes {} pseudo) segment)

def udpChecksum (src dst : Ipv4Addr) (datagram : Bytes) : Guarded UInt16 := do
  let c ← pseudoHeaderChecksum src dst IpProtocol.udp datagram
  return if c = 0 then 0xFFFF else c

def withChecksum (h : Ipv4Header) : Guarded Ipv4Header := do
  return { h with checksum := ← checksum (Wire.encode { h with checksum := 0 }) }

/-- Both halves of a sum are below `2 ^ 16`, and a sum that is itself below it is left alone. -/
lemma fold_eq (sum : UInt32) : fold sum = pure (Checksum.fold sum) := by
  have hsum := sum.toNat_lt
  have hlow : (sum &&& 0xFFFF).toNat = sum.toNat % 65536 := by
    rw [UInt32.toNat_and]
    exact Nat.and_two_pow_sub_one_eq_mod sum.toNat 16
  have hhigh : (sum >>> 16).toNat = sum.toNat / 65536 := by
    rw [UInt32.toNat_shiftRight]
    exact Nat.shiftRight_eq_div_pow sum.toNat 16
  have hlt : (0xFFFF < sum) ↔ 65535 < sum.toNat := UInt32.lt_iff_toNat_lt
  unfold fold
  split
  · rw [add32_eq (by omega)]
    refine congrArg pure (UInt32.toNat.inj ?_)
    rw [toNat_fold, UInt32.toNat_add, hlow, hhigh]
    omega
  next hsmall =>
    rw [hlt] at hsmall
    refine congrArg pure (UInt32.toNat.inj ?_)
    rw [toNat_fold]
    omega

variable {acc : Accumulator}

/-- A folded total has room for a word. -/
lemma addWord_eq (h : acc.total.toNat ≤ 65535) (w : UInt16) :
    addWord acc w = pure (acc.addWord w) := by
  have hw := w.toNat_lt
  have hroom : acc.total.toNat + w.toUInt32.toNat < 4294967296 := by
    rw [UInt16.toNat_toUInt32]
    omega
  rw [addWord, add32_eq hroom, pure_bind, fold_eq, pure_bind, Accumulator.addWord]

lemma total_addWord_le (h : acc.total.toNat ≤ 65535) (w : UInt16) :
    (acc.addWord w).total.toNat ≤ 65535 := by
  have hself : acc.total.toNat = onesSum acc.total.toNat := by
    unfold onesSum
    split <;> omega
  rw [Accumulator.total_addWord hself]
  exact onesSum_le _

lemma addBytes_eq (h : acc.total.toNat ≤ 65535) (data : Bytes) :
    addBytes acc data = pure (acc.add data) := by
  fun_induction Accumulator.add acc data with
  | case1 acc high low rest ih =>
    rw [addBytes, addWord_eq h, pure_bind]
    exact ih (total_addWord_le h _)
  | case2 acc high => exact addWord_eq h _
  | case3 acc => rfl

lemma total_add_le (h : acc.total.toNat ≤ 65535) (data : Bytes) :
    (acc.add data).total.toNat ≤ 65535 := by
  fun_induction Accumulator.add acc data with
  | case1 acc high low rest ih => exact ih (total_addWord_le h _)
  | case2 acc high => exact total_addWord_le h _
  | case3 acc => exact h

lemma finish_eq (acc : Accumulator) : finish acc = pure acc.finish := by
  rw [finish, fold_eq, pure_bind, fold_eq, pure_bind]
  rfl

lemma total_nil_le : ({} : Accumulator).total.toNat ≤ 65535 := by decide

lemma checksum_eq (data : Bytes) : checksum data = pure (PacketHost.checksum data) := by
  rw [checksum, addBytes_eq total_nil_le, pure_bind, finish_eq]
  rfl

/-- A segment is shorter than a packet, so its length is not cut. -/
lemma pseudoHeaderChecksum_eq (src dst : Ipv4Addr) (protocol : UInt8) {segment : Bytes}
    (h : segment.length < 65536) :
    pseudoHeaderChecksum src dst protocol segment =
      pure (PacketHost.pseudoHeaderChecksum src dst protocol segment) := by
  rw [pseudoHeaderChecksum, word16_eq h, pure_bind]
  dsimp only
  rw [addBytes_eq total_nil_le, pure_bind, addBytes_eq (total_add_le total_nil_le _), pure_bind,
    finish_eq]
  rfl

lemma udpChecksum_eq (src dst : Ipv4Addr) {datagram : Bytes} (h : datagram.length < 65536) :
    udpChecksum src dst datagram = pure (PacketHost.udpChecksum src dst datagram) := by
  rw [udpChecksum, pseudoHeaderChecksum_eq src dst _ h, pure_bind]
  rfl

lemma withChecksum_eq (h : Ipv4Header) : withChecksum h = pure h.withChecksum := by
  rw [withChecksum, checksum_eq, pure_bind]
  rfl

end Guarded

end PacketHost
