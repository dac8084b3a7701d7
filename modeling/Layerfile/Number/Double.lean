/-!
Binary floating point numbers of 64 bits, and the one nearest to a decimal.
-/

namespace Layerfile

/-- `finite negative mantissa exponent` stands for `mantissa * 2 ^ exponent` with its sign.
The mantissa has at most 53 bits. -/
inductive Double where
  | nan
  | infinity (negative : Bool)
  | finite (negative : Bool) (mantissa : Nat) (exponent : Int)
deriving DecidableEq, Repr

namespace Double

def minExponent : Int := -1074

def maxExponent : Int := 971

def mantissaLimit : Nat := 0x20000000000000

/-- A quotient rounded to the nearest whole number, a half to the even one. -/
def roundDiv (num den : Nat) : Nat :=
  let quotient := num / den
  let twice := 2 * (num % den)
  if twice < den then quotient
  else if den < twice then quotient + 1
  else quotient + quotient % 2

/-- `num / den / 2 ^ exponent` as a fraction of whole numbers. -/
def scale (num den : Nat) (exponent : Int) : Nat × Nat :=
  if 0 ≤ exponent then (num, den * Nat.pow 2 exponent.toNat)
  else (num * Nat.pow 2 (-exponent).toNat, den)

def ofFraction (negative : Bool) (num den : Nat) : Double :=
  let estimate : Int := (Nat.log2 num : Int) - Nat.log2 den - 53
  let coarse := scale num den estimate
  let exponent := max minExponent
    (if coarse.1 / coarse.2 < mantissaLimit then estimate else estimate + 1)
  let (n, d) := scale num den exponent
  let mantissa := roundDiv n d
  let (mantissa, exponent) :=
    if mantissa < mantissaLimit then (mantissa, exponent) else (mantissa / 2, exponent + 1)
  if exponent ≤ maxExponent then finite negative mantissa exponent else infinity negative

/-- The number nearest to `digits * 10 ^ exponent`. Decimals too large for any finite number
or too small for any positive one are settled by their size. -/
def ofDecimal (negative : Bool) (digits : Nat) (exponent : Int) : Double :=
  let magnitude : Int := exponent + (Nat.toDigits 10 digits).length
  if digits = 0 || magnitude < -330 then finite negative 0 minExponent
  else if 320 < magnitude then infinity negative
  else if 0 ≤ exponent then ofFraction negative (digits * Nat.pow 10 exponent.toNat) 1
  else ofFraction negative digits (Nat.pow 10 (-exponent).toNat)

end Double

end Layerfile
