import PacketHost.Dns.Name
import PacketHost.Wire

/-!
Domain name messages: a query with one question, and the place of the first answer's address in a
response.

Of a response only the shape is followed: header, question, owner name of the first answer and ten
bytes of type, class, lifetime and length, none of which is looked into. The four bytes after them
are the address.
-/

namespace PacketHost

open Bytes

structure DnsHeader where
  id : UInt16
  flags : UInt16
  questions : UInt16
  answers : UInt16
  authorities : UInt16
  additionals : UInt16
  deriving DecidableEq

namespace DnsHeader

instance : Wire DnsHeader where
  width := 12
  encode h := ofWord16 h.id ++ ofWord16 h.flags ++ ofWord16 h.questions ++ ofWord16 h.answers ++
    ofWord16 h.authorities ++ ofWord16 h.additionals
  decode b off := ⟨word16At b off, word16At b (off + 2), word16At b (off + 4), word16At b (off + 6),
    word16At b (off + 8), word16At b (off + 10)⟩

instance : LawfulWire DnsHeader where
  length_encode _ := rfl
  decode_encode h := by simp [Wire.encode, Wire.decode, ofWord16, word16At]
  holdsAt_encode_decode b off := by
    simp [Wire.encode, Wire.decode, ofWord16, word16At, Nat.add_assoc]

/-- One question, recursion desired. -/
def query (id : UInt16) : DnsHeader :=
  { id, flags := 0x0100, questions := 1, answers := 0, authorities := 0, additionals := 0 }

end DnsHeader

namespace Dns

def headerLength : Nat := 12

/-- Type A, class IN. -/
def questionTail : Bytes := ofWord16 1 ++ ofWord16 1

/-- Writes a query to the front of a buffer, and gives its length. What has been written when a
later part does not fit stays. -/
def buildQuery (id : UInt16) (name : String) (out : Bytes) : Except NetError Nat × Bytes :=
  if out.length < headerLength + 4 then
    (.error (.payloadTooLarge (headerLength + 4) out.length), out)
  else
    let header := Wire.encode (DnsHeader.query id)
    match encodeName name (out.drop headerLength) with
    | (.error e, tail) => (.error e, header ++ tail)
    | (.ok n, tail) =>
      let stop := headerLength + n + 4
      if out.length < stop then
        (.error (.payloadTooLarge stop out.length), header ++ tail)
      else
        (.ok stop, overwrite (header ++ tail) (headerLength + n) questionTail)

/-- The position after the name that starts with the given bytes, which stand at `off` in a message
of `limit` bytes: after the zero length that ends it, or after the two bytes of a compression
pointer. -/
def nameEnd (limit : Nat) : Nat → Bytes → Except NetError Nat
  | off, [] => .error (.sizeMismatch (off + 1) limit)
  | off, v :: rest =>
    if v = 0 then .ok (off + 1)
    else if v &&& 0xC0 = 0xC0 then .ok (off + 2)
    else nameEnd limit (off + 1 + v.toNat) (rest.drop v.toNat)
termination_by _ b => b.length
decreasing_by
  simp only [List.length_drop, List.length_cons]
  omega

def skipName (message : Bytes) (off : Nat) : Except NetError Nat :=
  nameEnd message.length off (message.drop off)

/-- The position of the first answer's address. -/
def answerOffset (message : Bytes) : Except NetError Nat := do
  let question ← skipName message headerLength
  let owner ← skipName message (question + 4)
  let off := owner + 10
  if message.length < off + 4 then
    throw (.sizeMismatch (off + 4) message.length)
  return off

end Dns

end PacketHost
