import PacketHost.Ethernet

/-!
Address resolution for IPv4 over Ethernet: who has an internet address, and the answer to it.
-/

namespace PacketHost

open Bytes

structure ArpPacket where
  hwType : UInt16
  protoType : UInt16
  hwLen : UInt8
  protoLen : UInt8
  opcode : UInt16
  senderHw : MacAddr
  senderIp : Ipv4Addr
  targetHw : MacAddr
  targetIp : Ipv4Addr
  deriving DecidableEq

namespace ArpPacket

def opRequest : UInt16 := 1

def opReply : UInt16 := 2

instance : Wire ArpPacket where
  width := 28
  encode p := ofWord16 p.hwType ++ ofWord16 p.protoType ++ [p.hwLen, p.protoLen] ++
    ofWord16 p.opcode ++ p.senderHw.octets ++ p.senderIp.octets ++ p.targetHw.octets ++
    p.targetIp.octets
  decode b off :=
    { hwType := word16At b off
      protoType := word16At b (off + 2)
      hwLen := byteAt b (off + 4)
      protoLen := byteAt b (off + 5)
      opcode := word16At b (off + 6)
      senderHw := Wire.decode b (off + 8)
      senderIp := Wire.decode b (off + 14)
      targetHw := Wire.decode b (off + 18)
      targetIp := Wire.decode b (off + 24) }

instance : LawfulWire ArpPacket where
  length_encode _ := rfl
  decode_encode p := by
    simp [Wire.encode, Wire.decode, MacAddr.octets, Ipv4Addr.octets, ofWord16, word16At]
  holdsAt_encode_decode b off := by
    simp [Wire.encode, Wire.decode, MacAddr.octets, Ipv4Addr.octets, ofWord16, word16At,
      Nat.add_assoc]

/-- Who has `target`? -/
def request (senderHw : MacAddr) (senderIp target : Ipv4Addr) : ArpPacket :=
  { hwType := 1, protoType := EtherType.ipv4, hwLen := 6, protoLen := 4, opcode := opRequest,
    senderHw, senderIp, targetHw := .zero, targetIp := target }

/-- Asks about, or tells, an IPv4 address over Ethernet. The two length fields are not looked at. -/
def isEthernetIpv4 (p : ArpPacket) : Bool := p.hwType == 1 && p.protoType == EtherType.ipv4

def isRequestFor (p : ArpPacket) (ip : Ipv4Addr) : Bool :=
  p.isEthernetIpv4 && p.opcode == opRequest && p.targetIp == ip

def isReplyFrom (p : ArpPacket) (ip : Ipv4Addr) : Bool :=
  p.isEthernetIpv4 && p.opcode == opReply && p.senderIp == ip

/-- The asker becomes the target, and the addresses asked for become the sender. -/
def answer (p : ArpPacket) (hw : MacAddr) (ip : Ipv4Addr) : ArpPacket :=
  { p with opcode := opReply, senderHw := hw, senderIp := ip, targetHw := p.senderHw,
           targetIp := p.senderIp }

end ArpPacket

end PacketHost
