import Layerfile.Number.Double

/-!
The text of a floating point number: the fewest digits that read back as the same
number, the nearest of those, written without an exponent.
-/

namespace Layerfile.Double

/-- `n * 10 ^ exponent` as a fraction of whole numbers. -/
def timesTen (n : Nat) (exponent : Int) : Nat × Nat :=
  if 0 ≤ exponent then (n * Nat.pow 10 exponent.toNat, 1)
  else (n, Nat.pow 10 (-exponent).toNat)

def timesTwo (n : Nat) (exponent : Int) : Nat × Nat :=
  if 0 ≤ exponent then (n * Nat.pow 2 exponent.toNat, 1)
  else (n, Nat.pow 2 (-exponent).toNat)

def fractionLe (a b : Nat × Nat) : Bool := a.1 * b.2 ≤ b.1 * a.2

def fractionLt (a b : Nat × Nat) : Bool := a.1 * b.2 < b.1 * a.2

/-- The decimals that read as `mantissa * 2 ^ exponent` lie between these two fractions.
Below a power of two the next number is only half as far. -/
def bounds (mantissa : Nat) (exponent : Int) : (Nat × Nat) × (Nat × Nat) :=
  let below := if 2 * mantissa = mantissaLimit && minExponent < exponent then 1 else 2
  (timesTwo (4 * mantissa - below) (exponent - 2), timesTwo (4 * mantissa + 2) (exponent - 2))

/-- Whether a decimal reads as `mantissa * 2 ^ exponent`. A decimal right between two
numbers goes to the even mantissa. -/
def readsAs (mantissa : Nat) (exponent : Int) (decimal : Nat × Nat) : Bool :=
  let (low, high) := bounds mantissa exponent
  if mantissa % 2 = 0 then fractionLe low decimal && fractionLe decimal high
  else fractionLt low decimal && fractionLt decimal high

def leadingPower (value : Nat × Nat) : Int :=
  if value.2 ≤ value.1 then (Nat.toDigits 10 (value.1 / value.2)).length - 1
  else
    match (List.range 400).find? fun n => value.2 ≤ value.1 * Nat.pow 10 (n + 1) with
    | some n => -(n + 1 : Nat)
    | none => 0

/-- The multiple of `10 ^ power` next to the number that reads back, if one does. Of the
multiples on either side the nearer is taken, of two equally near the larger. -/
def candidate (mantissa : Nat) (exponent power : Int) : Option Nat :=
  let value := timesTwo mantissa exponent
  let unit := timesTen 1 power
  let floor := value.1 * unit.2 / (value.2 * unit.1)
  let hits n := readsAs mantissa exponent (timesTen n power)
  let half : Nat × Nat := timesTen (2 * floor + 1) power
  let aboveHalf := fractionLe half (2 * value.1, value.2)
  match hits floor, hits (floor + 1) with
  | true, true => some (if aboveHalf then floor + 1 else floor)
  | true, false => some floor
  | false, true => some (floor + 1)
  | false, false => none

/-- The shortest digits of a positive number and the power of ten of the last one. -/
def shortest (mantissa : Nat) (exponent : Int) : Nat × Int :=
  let leading := leadingPower (timesTwo mantissa exponent)
  let found := (List.range 17).findSome? fun (n : Nat) =>
    (candidate mantissa exponent (leading - n)).map fun digits => (digits, leading - n)
  found.getD (0, 0)

/-- Digits without the zeros at their end, and how many those were. -/
def trimZeros (digits : List Char) : List Char × Nat :=
  let kept := (digits.reverse.dropWhile (· == '0')).reverse
  (kept, digits.length - kept.length)

def positional (digits : List Char) (power : Int) : List Char :=
  if 0 ≤ power then digits ++ List.replicate power.toNat '0'
  else
    let places := (-power).toNat
    if places < digits.length then
      digits.take (digits.length - places) ++ '.' :: digits.drop (digits.length - places)
    else '0' :: '.' :: List.replicate (places - digits.length) '0' ++ digits

def text : Double → String
  | nan => "NaN"
  | infinity negative => if negative then "-inf" else "inf"
  | finite negative mantissa exponent =>
    let sign := if negative then "-" else ""
    if mantissa = 0 then sign ++ "0"
    else
      let (digits, power) := shortest mantissa exponent
      let (kept, zeros) := trimZeros (Nat.toDigits 10 digits)
      sign ++ String.ofList (positional kept (power + zeros))

/-- The text of a number, with at least one place after the point if it is finite. -/
def pointedText (number : Double) : String :=
  let plain := number.text
  match number with
  | finite .. => if plain.toList.contains '.' then plain else plain ++ ".0"
  | _ => plain

end Layerfile.Double
