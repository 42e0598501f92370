import PacketHost.Wire

/-!
The TCP header without options, and what a reply makes of it.

There is no connection: every reply is derived from the one segment that it answers.
-/

namespace PacketHost

open Bytes

namespace TcpFlag

def fin : UInt16 := 0x01

def syn : UInt16 := 0x02

def psh : UInt16 := 0x08

def ack : UInt16 := 0x10

/-- The nine flag bits of the word that they share with the data offset and three reserved bits. -/
def mask : UInt16 := 0x01FF

end TcpFlag

structure TcpHeader where
  srcPort : UInt16
  dstPort : UInt16
  seq : UInt32
  ack : UInt32
  offsetAndFlags : UInt16
  window : UInt16
  checksum : UInt16
  urgent : UInt16
  deriving DecidableEq

namespace TcpHeader

instance : Wire TcpHeader where
  width := 20
  encode h := ofWord16 h.srcPort ++ ofWord16 h.dstPort ++ ofWord32 h.seq ++ ofWord32 h.ack ++
    ofWord16 h.offsetAndFlags ++ ofWord16 h.window ++ ofWord16 h.checksum ++ ofWord16 h.urgent
  decode b off :=
    { srcPort := word16At b off
      dstPort := word16At b (off + 2)
      seq := word32At b (off + 4)
      ack := word32At b (off + 8)
      offsetAndFlags := word16At b (off + 12)
      window := word16At b (off + 14)
      checksum := word16At b (off + 16)
      urgent := word16At b (off + 18) }

instance : LawfulWire TcpHeader where
  length_encode _ := rfl
  decode_encode h := by
    simp [Wire.encode, Wire.decode, ofWord16, ofWord32, word16At, word32At]
  holdsAt_encode_decode b off := by
    simp [Wire.encode, Wire.decode, ofWord16, ofWord32, word16At, word32At, Nat.add_assoc]

def flags (h : TcpHeader) : UInt16 := h.offsetAndFlags &&& TcpFlag.mask

/-- Some bit of `flag` is set in the whole word, so not only a flag can be asked for. -/
def has (h : TcpHeader) (flag : UInt16) : Bool := h.offsetAndFlags &&& flag != 0

def setFlag (h : TcpHeader) (flag : UInt16) : TcpHeader :=
  { h with offsetAndFlags := h.offsetAndFlags ||| flag }

/-- Where the data starts, in bytes from the start of the header. -/
def dataOffset (h : TcpHeader) : Nat := (h.offsetAndFlags >>> 12).toNat * 4

/-- Ports change places, and so do sequence and acknowledgment number. -/
def swapForReply (h : TcpHeader) : TcpHeader :=
  { h with srcPort := h.dstPort, dstPort := h.srcPort, seq := h.ack, ack := h.seq }

/-- Acknowledges `n` bytes more. -/
def advanceAck (h : TcpHeader) (n : Nat) : TcpHeader := { h with ack := h.ack + .ofNat n }

/-- The header that answers a segment without data for the application. A bare acknowledgment is
given its own number back; anything else is taken to use up one number. An answer to SYN
acknowledges it, and no answer has options or reserved bits. -/
def controlReply (h : TcpHeader) : TcpHeader :=
  let r := h.swapForReply
  let r := if r.flags = TcpFlag.ack then r else r.advanceAck 1
  let r := if r.has TcpFlag.syn then r.setFlag TcpFlag.ack else r
  { r with offsetAndFlags := 0x5000 ||| r.flags }

end TcpHeader

end PacketHost
