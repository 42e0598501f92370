import PacketHost.Address

/-!
The Internet checksum: the ones' complement of the ones'-complement sum of the 16-bit words.

The sum is kept in 32 bits and folded back below `2 ^ 16` after every word, which is why it cannot
overflow on a string of any length. A piece of odd length is padded with a zero byte on its own.
-/

namespace PacketHost

open Bytes

namespace Checksum

/-- Moves the carries above 16 bits back into the low word. -/
def fold (sum : UInt32) : UInt32 := sum % 0x10000 + sum / 0x10000

structure Accumulator where
  total : UInt32 := 0

namespace Accumulator

def addWord (acc : Accumulator) (w : UInt16) : Accumulator :=
  ⟨fold (acc.total + w.toUInt32)⟩

def add (acc : Accumulator) : Bytes → Accumulator
  | high :: low :: rest => (acc.addWord (word16 high low)).add rest
  | [high] => acc.addWord (word16 high 0)
  | [] => acc

/-- Two folds bring any 32-bit number below `2 ^ 16`. -/
def sum (acc : Accumulator) : UInt16 := (fold (fold acc.total)).toUInt16

/-- What goes into a checksum field. -/
def finish (acc : Accumulator) : UInt16 := ~~~acc.sum

end Accumulator

end Checksum

def checksum (data : Bytes) : UInt16 := (({} : Checksum.Accumulator).add data).finish

/-- What a transport checksum covers besides the segment. The length is cut to 16 bits. -/
def pseudoHeader (src dst : Ipv4Addr) (protocol : UInt8) (length : Nat) : Bytes :=
  src.octets ++ dst.octets ++ [0, protocol] ++ ofWord16 (.ofNat length)

def pseudoHeaderChecksum (src dst : Ipv4Addr) (protocol : UInt8) (segment : Bytes) : UInt16 :=
  ((({} : Checksum.Accumulator).add (pseudoHeader src dst protocol segment.length)).add
    segment).finish

end PacketHost
