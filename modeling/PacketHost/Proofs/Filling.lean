import PacketHost.Proofs.Reacting

/-!
Filling in a checksum field that held anything before.

The field is cleared, the sum is taken, and the sum is put into the field. For a sum that is the
complement of what is missing (`checksum_fill`, `pseudoHeaderChecksum_fill`) the string then checks,
whatever else is in it; the UDP sum is not of that kind, since one of its values is replaced, but it
checks as well.
-/

namespace PacketHost

open Bytes Checksum

/-- The string with a sum of it in the word at `off`, which counts as zero in the sum. -/
def filled (sum : Bytes → UInt16) (off : Nat) (d : Bytes) : Bytes :=
  let cleared := overwrite d off (ofWord16 0)
  overwrite cleared off (ofWord16 (sum cleared))

variable {d : Bytes} {off : Nat}

lemma word16At_filled (sum : Bytes → UInt16) (hlen : off + 2 ≤ d.length) :
    word16At (filled sum off d) off = sum (overwrite d off (ofWord16 0)) :=
  word16At_overwrite (by rwa [length_overwrite]) _

lemma checksum_filled (heven : off % 2 = 0) (hlen : off + 2 ≤ d.length) :
    checksum (filled checksum off d) = 0 :=
  checksum_fill heven (by rwa [length_overwrite]) (word16At_overwrite hlen 0)

lemma pseudoHeaderChecksum_filled (heven : off % 2 = 0) (hlen : off + 2 ≤ d.length)
    (src dst : Ipv4Addr) (protocol : UInt8) :
    pseudoHeaderChecksum src dst protocol
      (filled (pseudoHeaderChecksum src dst protocol) off d) = 0 :=
  pseudoHeaderChecksum_fill heven (by rwa [length_overwrite]) (word16At_overwrite hlen 0) ..

/-- What a datagram is that has been given its checksum. -/
structure CarriesUdpChecksum (src dst : Ipv4Addr) (datagram : Bytes) : Prop where
  present : word16At datagram 6 ≠ 0
  checks : pseudoHeaderChecksum src dst IpProtocol.udp datagram = 0
  checks_comm : pseudoHeaderChecksum dst src IpProtocol.udp datagram = 0

lemma carriesUdpChecksum_filled (hlen : 8 ≤ d.length) (src dst : Ipv4Addr) :
    CarriesUdpChecksum src dst (filled (udpChecksum src dst) 6 d) := by
  have hchecks : pseudoHeaderChecksum src dst IpProtocol.udp (filled (udpChecksum src dst) 6 d) =
      0 :=
    udpChecksum_fill rfl (by rwa [length_overwrite]) (word16At_overwrite hlen 0) src dst
  exact
    { present := by
        rw [word16At_filled _ hlen]
        exact udpChecksum_ne_zero src dst _
      checks := hchecks
      checks_comm := by rw [pseudoHeaderChecksum_comm, hchecks] }

lemma Ipv4Header.checksumValid_withChecksum (h : Ipv4Header) :
    h.withChecksum.checksumValid = true := by
  rw [checksumValid, checksum_withChecksum, beq_self_eq_true]

lemma Icmp.exists_echoReply? {message : Bytes} (hlen : 8 ≤ message.length)
    (htype : byteAt message 0 = IcmpHeader.echoRequestType) :
    ∃ reply, echoReply? message = some reply ∧ checksum reply = 0 := by
  refine ⟨echoed message, ?_, checksum_echoed hlen⟩
  rw [echoReply?_eq hlen, if_pos htype]

/-- **A checksum that was filled in checks**, wherever between words the field is, whatever it held,
and whatever is in the rest of the string, which may have an odd length. A UDP checksum is never
zero when it is filled in, and a datagram that has it checks in both directions. So every header
that the host sends is one that it would take, and every echo reply checks, whatever the checksum of
the request. -/
theorem filled_checks :
    (∀ (d : Bytes) (off : Nat), off % 2 = 0 → off + 2 ≤ d.length →
      checksum (filled checksum off d) = 0 ∧
        ∀ (src dst : Ipv4Addr) (protocol : UInt8), pseudoHeaderChecksum src dst protocol
          (filled (pseudoHeaderChecksum src dst protocol) off d) = 0) ∧
    (∀ (d : Bytes) (src dst : Ipv4Addr), 8 ≤ d.length →
      CarriesUdpChecksum src dst (filled (udpChecksum src dst) 6 d)) ∧
    (∀ h : Ipv4Header, h.withChecksum.checksumValid = true) ∧
    ∀ message : Bytes, 8 ≤ message.length → byteAt message 0 = IcmpHeader.echoRequestType →
      ∃ reply, Icmp.echoReply? message = some reply ∧ checksum reply = 0 := by
  refine ⟨fun d off heven hlen => ⟨?_, ?_⟩, ?_, ?_, ?_⟩
  · exact checksum_filled heven hlen
  · exact pseudoHeaderChecksum_filled heven hlen
  · exact fun d src dst hlen => carriesUdpChecksum_filled hlen src dst
  · exact Ipv4Header.checksumValid_withChecksum
  · exact fun message => Icmp.exists_echoReply?

/-- A datagram that sums to zero, with junk in its checksum field. -/
def zeroSumDatagram : Bytes := [0xFF, 0xE6, 0, 0, 0, 0, 0x12, 0x34]

/-- An echo request of odd length whose checksum is wrong. -/
def oddEchoRequest : Bytes := [8, 0, 0x12, 0x34, 0, 1, 0, 2, 0x41]

/-- Without the replacement this datagram would be sent as one that has no checksum. -/
theorem filled_checks_zeroSum :
    let unset : Ipv4Addr := ⟨0, 0, 0, 0⟩
    pseudoHeaderChecksum unset unset IpProtocol.udp (overwrite zeroSumDatagram 6 (ofWord16 0)) = 0 ∧
    CarriesUdpChecksum unset unset (filled (udpChecksum unset unset) 6 zeroSumDatagram) ∧
    checksum (filled checksum 2 oddEchoRequest) = 0 ∧
    ∃ reply, Icmp.echoReply? oddEchoRequest = some reply ∧ checksum reply = 0 := by
  obtain ⟨hfilled, hudp, -, hecho⟩ := filled_checks
  refine ⟨by decide +kernel, ?_, ?_, ?_⟩
  · exact hudp zeroSumDatagram _ _ (by decide)
  · exact (hfilled oddEchoRequest 2 rfl (by decide)).1
  · exact hecho oddEchoRequest (by decide) rfl

end PacketHost
