import Layerfile.Text.Digits
import Layerfile.Text.Split

/-!
Numeric addresses of hosts: four numbers of eight bits, or eight pieces of sixteen.
-/

namespace Layerfile.Uri.Address

/-! ### Four numbers -/

/-- A number in base ten, in base eight after a zero, or in base sixteen after `0x`. -/
def number? (part : List Char) : Option Nat :=
  match part with
  | '0' :: 'x' :: digits | '0' :: 'X' :: digits =>
    if digits.isEmpty then some 0 else Text.number? 16 digits
  | '0' :: c :: digits => Text.number? 8 (c :: digits)
  | _ => Text.number? 10 part

/-- The parts of a host between dots. One dot at the end does not count. -/
def dotted (host : List Char) : List (List Char) :=
  let parts := Text.splitWhere (· == '.') host
  if parts.length != 1 && parts.getLast? == some [] then parts.dropLast else parts

/-- A host whose last part is a number is an address or nothing. -/
def endsInNumber (host : List Char) : Bool :=
  (dotted host).getLast?.any fun last =>
    (!last.isEmpty && last.all Char.isDigit) || (number? last).isSome

/-- The value of numbers in base 256, of which the last fills up what is left. -/
def value? (numbers : List Nat) : Option Nat :=
  let before := numbers.dropLast
  let room := Nat.pow 256 (4 - before.length)
  match numbers.getLast? with
  | some last =>
    if before.length < 4 && before.all (· < 256) && last < room then
      some (before.foldl (fun n part => n * 256 + part) 0 * room + last)
    else none
  | none => none

def quad (value : Nat) : List Nat :=
  [value / 0x1000000, value / 0x10000 % 0x100, value / 0x100 % 0x100, value % 0x100]

def quad? (host : List Char) : Option (List Nat) := do
  quad (← value? (← (dotted host).mapM number?))

/-! ### Eight pieces -/

def byte? (part : List Char) : Option Nat := do
  let value ← Text.number? 10 part
  if value < 256 && (part.length == 1 || part.head? != some '0') then some value else none

def piece? (part : List Char) : Option Nat :=
  if part.length ≤ 4 then Text.number? 16 part else none

def quadPieces? (part : List Char) : Option (List Nat) := do
  match ← (Text.splitWhere (· == '.') part).mapM byte? with
  | [a, b, c, d] => some [a * 256 + b, c * 256 + d]
  | _ => none

/-- The pieces between colons. The last can be written as four numbers. -/
def pieces? (atEnd : Bool) : List (List Char) → Option (List Nat)
  | [] => some []
  | part :: later =>
    if later.isEmpty && atEnd && part.contains '.' then quadPieces? part
    else return (← piece? part) :: (← pieces? atEnd later)

def colonParts (text : List Char) : List (List Char) :=
  if text.isEmpty then [] else Text.splitWhere (· == ':') text

def splitGap : List Char → Option (List Char × List Char)
  | ':' :: ':' :: after => some ([], after)
  | c :: rest => (splitGap rest).map fun (before, after) => (c :: before, after)
  | [] => none

/-- Reads an address of eight pieces. Two colons stand for one or more pieces that are zero. -/
def pieces8? (text : List Char) : Option (List Nat) := do
  match splitGap text with
  | some (before, after) =>
    let first ← pieces? false (colonParts before)
    let last ← pieces? true (colonParts after)
    if first.length + last.length < 8 then
      some (first ++ List.replicate (8 - (first.length + last.length)) 0 ++ last)
    else none
  | none =>
    let all ← pieces? true (colonParts text)
    if all.length = 8 then some all else none

end Layerfile.Uri.Address
