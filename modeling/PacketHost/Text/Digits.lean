/-!
Numbers in digits.
-/

namespace PacketHost

namespace Digits

/-- The lowest `k` hexadecimal digits, in lower case. -/
def hex : Nat → Nat → List Char
  | 0, _ => []
  | k + 1, n => hex k (n / 16) ++ [Nat.digitChar (n % 16)]

def hexText (k n : Nat) : String := .ofList (hex k n)

def decimalValue? (c : Char) : Option Nat :=
  if '0' ≤ c ∧ c ≤ '9' then some (c.toNat - '0'.toNat) else none

/-- Digits of either case. -/
def hexValue? (c : Char) : Option Nat :=
  if '0' ≤ c ∧ c ≤ '9' then some (c.toNat - '0'.toNat)
  else if 'a' ≤ c ∧ c ≤ 'f' then some (c.toNat - 'a'.toNat + 10)
  else if 'A' ≤ c ∧ c ≤ 'F' then some (c.toNat - 'A'.toNat + 10)
  else none

/-- Reads on from a value already read. -/
def valueFrom? (digit? : Char → Option Nat) (base : Nat) : Nat → List Char → Option Nat
  | n, [] => some n
  | n, c :: cs =>
    match digit? c with
    | none => none
    | some d => valueFrom? digit? base (n * base + d) cs

/-- The value of a row of digits, which may not be empty. -/
def value? (digit? : Char → Option Nat) (base : Nat) (cs : List Char) : Option Nat :=
  if cs.isEmpty then none else valueFrom? digit? base 0 cs

def byte? (n : Nat) : Option UInt8 := if n ≤ 255 then some (.ofNat n) else none

end Digits

end PacketHost
