import PacketHost.Address

/-!
What is fixed about a host when it is set up.
-/

namespace PacketHost

structure Settings where
  mac : MacAddr := ⟨0x02, 0, 0, 0, 0, 0x01⟩
  ip : Ipv4Addr := ⟨10, 0, 0, 1⟩
  /-- Identifier of the echo requests sent. -/
  pingIdentifier : UInt16 := 0x7473
  /-- The port that domain name queries are sent from. -/
  dnsSourcePort : UInt16 := 49153
  /-- Identifier of the first domain name query; each later one has the next. -/
  dnsTransactionSeed : UInt16 := 0x0100
  /-- Drop what has a bad IPv4 header checksum. -/
  verifyChecksums : Bool := false
  /-- Send UDP checksums instead of zero. -/
  fillUdpChecksums : Bool := false
  deriving DecidableEq

end PacketHost
