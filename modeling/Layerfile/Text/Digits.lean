/-!
Digits of numbers in a base up to sixteen.
-/

namespace Layerfile.Text

def hexDigit (n : Nat) : Char :=
  "0123456789abcdef".toList.getD n '0'

def isHexDigit (c : Char) : Bool :=
  c.isDigit || ('a' ≤ c && c ≤ 'f') || ('A' ≤ c && c ≤ 'F')

def digitValue (c : Char) : Nat :=
  if c.isDigit then c.toNat - '0'.toNat
  else if 'a' ≤ c && c ≤ 'f' then c.toNat - 'a'.toNat + 10
  else c.toNat - 'A'.toNat + 10

def digitsValue (base : Nat) (digits : List Char) : Nat :=
  digits.foldl (fun n c => n * base + digitValue c) 0

/-- Reads a number in a base, none if there is no digit or something else. -/
def number? (base : Nat) (text : List Char) : Option Nat :=
  if !text.isEmpty && text.all fun c => isHexDigit c && digitValue c < base then
    some (digitsValue base text)
  else none

end Layerfile.Text
