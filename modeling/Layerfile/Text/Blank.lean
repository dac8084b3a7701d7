import Layerfile.Text.CodeRange

/-!
Blanks. Words of a line are separated by spaces and tabs only; the spaced form of
an environment value is divided by any character with the Unicode property
`White_Space`.
-/

namespace Layerfile.Text

/-- Spaces and tabs separate the words of a line. -/
def isBlank (c : Char) : Bool :=
  c == ' ' || c == '\t'

/-- Characters that can stand inside a word: neither a blank nor a line feed. -/
def isWordChar (c : Char) : Bool :=
  !isBlank c && c != '\n'

def whiteSpaceRanges : CodeRanges :=
  [(0x09, 0x0D), (0x20, 0x20), (0x85, 0x85), (0xA0, 0xA0), (0x1680, 0x1680), (0x2000, 0x200A),
    (0x2028, 0x2029), (0x202F, 0x202F), (0x205F, 0x205F), (0x3000, 0x3000)]

/-- Membership in the Unicode property `White_Space`. -/
def isWhiteSpace (c : Char) : Bool :=
  whiteSpaceRanges.has c

def trimRight (text : List Char) : List Char :=
  (text.reverse.dropWhile isBlank).reverse

def trailingBlanks (text : List Char) : List Char :=
  (text.reverse.takeWhile isBlank).reverse

theorem trimRight_append_trailingBlanks (text : List Char) :
    trimRight text ++ trailingBlanks text = text := by
  rw [trimRight, trailingBlanks, ← List.reverse_append, List.takeWhile_append_dropWhile,
    List.reverse_reverse]

theorem isWhiteSpace_of_isBlank {c : Char} (h : isBlank c = true) : isWhiteSpace c = true := by
  simp only [isBlank, Bool.or_eq_true, beq_iff_eq] at h
  rcases h with rfl | rfl <;> decide

end Layerfile.Text
