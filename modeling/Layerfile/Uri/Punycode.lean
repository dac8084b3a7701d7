import Layerfile.Text.Split

/-!
Punycode: a text as plain letters and digits. The plain characters come first; each other
one is given by a number that says how far it is, in code and place, from the one before.
-/

namespace Layerfile.Uri.Punycode

/-! ### Digits -/

def digitChar (n : Nat) : Char :=
  if n < 26 then Char.ofNat ('a'.toNat + n) else Char.ofNat ('0'.toNat + (n - 26))

def digit? (c : Char) : Option Nat :=
  if 'a' ≤ c && c ≤ 'z' then some (c.toNat - 'a'.toNat)
  else if c.isDigit then some (c.toNat - '0'.toNat + 26)
  else none

/-- A digit below the threshold ends a number. -/
def threshold (bias place : Nat) : Nat :=
  if place ≤ bias then 1 else if bias + 26 ≤ place then 26 else place - bias

theorem threshold_pos (bias place : Nat) : 0 < threshold bias place := by
  unfold threshold
  split
  · omega
  · split <;> omega

def scaled (delta place : Nat) : Nat :=
  if 455 < delta then scaled (delta / 35) (place + 36) else place + 36 * delta / (delta + 38)
termination_by delta
decreasing_by omega

/-- The bias after a number, by its size and the count of characters. -/
def adapt (delta count : Nat) (first : Bool) : Nat :=
  let delta := if first then delta / 700 else delta / 2
  scaled (delta + delta / count) 0

/-! ### Writing -/

def digits (bias place number : Nat) : List Char :=
  let t := threshold bias place
  if number < t then [digitChar number]
  else
    digitChar (t + (number - t) % (36 - t)) :: digits bias (place + 36) ((number - t) / (36 - t))
termination_by number
decreasing_by
  have h := threshold_pos bias place
  exact Nat.lt_of_le_of_lt (Nat.div_le_self _ _) (by omega)

structure Writer where
  out : List Char
  delta : Nat
  bias : Nat
  /-- How many characters have been written, of which so many were plain. -/
  count : Nat
  plain : Nat

namespace Writer

/-- Passes a character while those with `code` are written. -/
def pass (code : Nat) (w : Writer) (c : Char) : Writer :=
  if c.toNat < code then { w with delta := w.delta + 1 }
  else if c.toNat = code then
    { w with
      out := w.out ++ digits w.bias 36 w.delta
      delta := 0
      bias := adapt w.delta (w.count + 1) (w.count == w.plain)
      count := w.count + 1 }
  else w

/-- Writes the characters of a text with the codes from `next` on, in rising order. -/
def codes (text : List Char) (w : Writer) (next : Nat) : List Nat → Writer
  | [] => w
  | code :: later =>
    let w := { w with delta := w.delta + (code - next) * (w.count + 1) }
    let w := text.foldl (pass code) w
    codes text { w with delta := w.delta + 1 } (code + 1) later

end Writer

def isPlain (c : Char) : Bool := c.toNat < 0x80

def encode (text : List Char) : List Char :=
  let plain := text.filter isPlain
  let others := (text.filter (!isPlain ·)).map Char.toNat
  let start : Writer :=
    { out := if plain.isEmpty then [] else plain ++ ['-']
      delta := 0
      bias := 72
      count := plain.length
      plain := plain.length }
  (start.codes text 0x80 (others.mergeSort (· ≤ ·)).eraseReps).out

/-! ### Reading -/

structure Scan where
  out : List Char
  code : Nat := 0x80
  bias : Nat := 72
  /-- Where the last character was put, and the number being read from there. -/
  start : Nat := 0
  number : Nat := 0
  weight : Nat := 1
  place : Nat := 36

/-- Takes a digit. The last one of a number puts a character into the text. -/
def Scan.step (s : Scan) (c : Char) : Option Scan := do
  let digit ← digit? c
  let t := threshold s.bias s.place
  let number := s.number + digit * s.weight
  if digit < t then
    let count := s.out.length + 1
    let code := s.code + number / count
    let next := number % count + 1
    if code.isValidChar then
      return { out := s.out.insertIdx (number % count) (Char.ofNat code)
               code
               bias := adapt (number - s.start) count (s.start == 0)
               start := next
               number := next }
    else none
  else return { s with number, weight := s.weight * (36 - t), place := s.place + 36 }

def decode? (text : List Char) : Option (List Char) := do
  let (plain, rest) := (Text.splitLast? '-' text).getD ([], text)
  if plain.isEmpty && text.contains '-' || !plain.all isPlain then none
  else
    let s ← rest.foldlM Scan.step { out := plain }
    if s.place = 36 then some s.out else none

end Layerfile.Uri.Punycode
