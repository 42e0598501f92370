import PacketHost.Checksum

/-!
ICMP, as far as echo requests and echo replies.
-/

namespace PacketHost

open Bytes

structure IcmpHeader where
  type : UInt8
  code : UInt8
  checksum : UInt16
  identifier : UInt16
  sequence : UInt16
  deriving DecidableEq

namespace IcmpHeader

def echoRequestType : UInt8 := 8

def echoReplyType : UInt8 := 0

instance : Wire IcmpHeader where
  width := 8
  encode h := [h.type, h.code] ++ ofWord16 h.checksum ++ ofWord16 h.identifier ++
    ofWord16 h.sequence
  decode b off :=
    { type := byteAt b off
      code := byteAt b (off + 1)
      checksum := word16At b (off + 2)
      identifier := word16At b (off + 4)
      sequence := word16At b (off + 6) }

instance : LawfulWire IcmpHeader where
  length_encode _ := rfl
  decode_encode h := by simp [Wire.encode, Wire.decode, ofWord16, word16At]
  holdsAt_encode_decode b off := by
    simp [Wire.encode, Wire.decode, ofWord16, word16At, Nat.add_assoc]

def echoRequest (identifier sequence : UInt16) : IcmpHeader :=
  { type := echoRequestType, code := 0, checksum := 0, identifier, sequence }

def isEchoRequest (h : IcmpHeader) : Bool := h.type == echoRequestType

def isEchoReply (h : IcmpHeader) : Bool := h.type == echoReplyType

end IcmpHeader

namespace Icmp

/-- The message with its checksum field filled in; the field has to be zero before. -/
def fillChecksum (message : Bytes) : Bytes :=
  overwrite message 2 (ofWord16 (checksum message))

/-- The echo reply to a message, if that is an echo request: only type and checksum differ. -/
def echoReply? (message : Bytes) : Option Bytes :=
  match (Wire.parse? message : Option IcmpHeader) with
  | none => none
  | some h =>
    if h.isEchoRequest then
      let reply := { h with type := IcmpHeader.echoReplyType, checksum := 0 }
      some (fillChecksum (overwrite message 0 (Wire.encode reply)))
    else
      none

end Icmp

end PacketHost
