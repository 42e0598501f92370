import PacketHost.Address
import PacketHost.Separated
import PacketHost.Text.Digits

/-!
Addresses as text: how they are written, and which texts are read.

Reading is more generous than writing where hardware addresses are concerned: an octet may have a
plus sign, leading zeros and digits of either case. An internet address has one text only.
-/

namespace PacketHost

open Digits Separated

namespace MacAddr

/-- Six octets of two digits, with colons between them. -/
def chars (m : MacAddr) : List Char := joined ':' (m.octets.map fun o => hex 2 o.toNat)

def text (m : MacAddr) : String := .ofList m.chars

/-- One octet: an optional plus sign, then hexadecimal digits. -/
def octet? : List Char → Option UInt8
  | '+' :: cs => value? hexValue? 16 cs >>= byte?
  | cs => value? hexValue? 16 cs >>= byte?

def ofChars? (cs : List Char) : Option MacAddr :=
  match (fields ':' cs).map octet? with
  | [some o₀, some o₁, some o₂, some o₃, some o₄, some o₅] => some ⟨o₀, o₁, o₂, o₃, o₄, o₅⟩
  | _ => none

def parse? (text : String) : Option MacAddr := ofChars? text.toList

end MacAddr

namespace Ipv4Addr

/-- Four numbers with points between them. -/
def text (a : Ipv4Addr) : String := ".".intercalate (a.octets.map fun o => toString o.toNat)

/-- Four numbers in brackets, the way the log shows an address. -/
def listText (a : Ipv4Addr) : String :=
  "[" ++ ", ".intercalate (a.octets.map fun o => toString o.toNat) ++ "]"

/-- One octet: at most three digits, and a leading zero only where it is the whole number. -/
def octet? (cs : List Char) : Option UInt8 :=
  if cs.length ≤ 3 ∧ (cs.head? = some '0' → cs.length = 1) then
    value? decimalValue? 10 cs >>= byte?
  else
    none

def ofChars? (cs : List Char) : Option Ipv4Addr :=
  match (fields '.' cs).map octet? with
  | [some o₀, some o₁, some o₂, some o₃] => some ⟨o₀, o₁, o₂, o₃⟩
  | _ => none

def parse? (text : String) : Option Ipv4Addr := ofChars? text.toList

end Ipv4Addr

end PacketHost
