import PacketHost.Bytes
import PacketHost.Error
import PacketHost.Separated

/-!
Domain names on the wire: each label after its length, and a zero length at the end.

A name is counted in the bytes of its UTF-8 form. Its labels are the fields between its dots; one
dot at the end is taken for granted.
-/

namespace PacketHost

open Bytes Separated

namespace Dns

def maxLabelLength : Nat := 63

def dot : UInt8 := 0x2E

def dropTrailingDot (b : Bytes) : Bytes := if b.getLast? = some dot then b.dropLast else b

/-- The bytes of a name, without the dot that may end it. -/
def nameBytes (name : String) : Bytes := dropTrailingDot name.toUTF8.data.toList

def nameLabels (name : String) : List Bytes := fields dot (nameBytes name)

def isLabel (l : Bytes) : Bool := 1 ≤ l.length && l.length ≤ maxLabelLength

def encodeLabel (l : Bytes) : Bytes := .ofNat l.length :: l

/-- Writes a name to the front of a buffer, and gives the number of bytes that it takes. A buffer
too small for the name is left alone; where a label is bad, the labels before it have been written.
-/
def encodeName (name : String) (out : Bytes) : Except NetError Nat × Bytes :=
  let needed := (nameBytes name).length + 2
  if out.length < needed then
    (.error (.payloadTooLarge needed out.length), out)
  else
    let written := ((nameLabels name).takeWhile isLabel).flatMap encodeLabel
    if (nameLabels name).all isLabel then
      (.ok (written.length + 1), overwrite out 0 (written ++ [0]))
    else
      (.error .invalidName, overwrite out 0 written)

/-- The labels at the front of a byte string, up to a zero length, a length with a bit above the
lowest six, or the end of the data. -/
def labels : Bytes → List Bytes
  | [] => []
  | v :: rest =>
    let label := rest.take v.toNat
    if v = 0 ∨ v &&& 0xC0 ≠ 0 ∨ label.length < v.toNat then []
    else label :: labels (rest.drop v.toNat)
termination_by b => b.length
decreasing_by
  simp only [List.length_drop, List.length_cons]
  omega

end Dns

end PacketHost
