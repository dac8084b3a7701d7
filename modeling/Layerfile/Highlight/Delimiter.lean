import Layerfile.Text.Blank

/-!
Delimiters between a key and its value, and where they first occur in a text.
-/

namespace Layerfile

open Text

inductive Delimiter where
  /-- `KEY=value` -/
  | equals
  /-- `KEY value with spaces` -/
  | whitespace
  /-- `KEY!=~value`, `KEY!=value`, `KEY=~value`, `KEY=value` -/
  | comparison
deriving DecidableEq, Repr

/-- A text around the first delimiter in it. -/
structure Cut where
  before : List Char
  delimiter : List Char
  after : List Char
deriving DecidableEq, Repr

namespace Delimiter

/-- Length of the delimiter at the front of a text, zero if there is none. The longest
comparison wins. -/
def width : Delimiter → List Char → Nat
  | equals, '=' :: _ => 1
  | equals, _ => 0
  | whitespace, text => (text.takeWhile isWhiteSpace).length
  | comparison, '!' :: '=' :: '~' :: _ => 3
  | comparison, '!' :: '=' :: _ => 2
  | comparison, '=' :: '~' :: _ => 2
  | comparison, '=' :: _ => 1
  | comparison, _ => 0

/-- Cuts a text at its leftmost delimiter. -/
def cut? (delimiter : Delimiter) : List Char → Option Cut
  | [] => none
  | c :: rest =>
    match delimiter.width (c :: rest) with
    | 0 => (delimiter.cut? rest).map fun cut => { cut with before := c :: cut.before }
    | width + 1 => some ⟨[], (c :: rest).take (width + 1), (c :: rest).drop (width + 1)⟩

/-- The second segment of a text cut at every delimiter: what stands between the first
and the second one, or after the only one. -/
def segment (delimiter : Delimiter) (cut : Cut) : List Char :=
  match delimiter.cut? cut.after with
  | some next => next.before
  | none => cut.after

theorem append_of_cut? {delimiter : Delimiter} {text : List Char} {cut : Cut}
    (h : delimiter.cut? text = some cut) :
    cut.before ++ cut.delimiter ++ cut.after = text := by
  induction text generalizing cut with
  | nil => simp [cut?] at h
  | cons c rest ih =>
    rw [cut?] at h
    split at h
    · simp only [Option.map_eq_some_iff] at h
      obtain ⟨inner, hinner, rfl⟩ := h
      simpa using ih hinner
    · obtain rfl := Option.some.inj h
      simp

end Delimiter

def offsetOf? (needle : List Char) : List Char → Option Nat
  | [] => if needle.isEmpty then some 0 else none
  | c :: rest =>
    if needle.isPrefixOf (c :: rest) then some 0 else (offsetOf? needle rest).map (· + 1)

end Layerfile
