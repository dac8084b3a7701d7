import Layerfile.Text.Composite

/-!
The canonical form of a text: marks stand in the order of their classes, and are joined with
the letter before them where there is a character for both.
-/

namespace Layerfile.Text

/-- Puts a mark behind the text before it, which is reversed, but before marks of higher
classes. -/
def putMark (c : Char) : List Char → List Char
  | [] => [c]
  | last :: before =>
    if combiningClass c != 0 && combiningClass c < combiningClass last then
      last :: putMark c before
    else c :: last :: before

/-- The smallest parts of a text in canonical order. -/
def ordered (text : List Char) : List Char :=
  ((text.flatMap parts).foldl (fun before c => putMark c before) []).reverse

/-- A mark reaches the letter if the marks between them, of which the last comes first, are
of lower classes. -/
def reaches (between : List Char) (c : Char) : Bool :=
  match between with
  | [] => true
  | last :: _ => combiningClass last < combiningClass c

/-- Joins marks with the letter before them. The marks that are already behind the letter
are reversed. -/
def joinFrom (letter : Option Char) (marks : List Char) : List Char → List Char
  | [] => letter.toList ++ marks.reverse
  | c :: rest =>
    match letter.bind fun a => if reaches marks c then joined? a c else none with
    | some whole => joinFrom (some whole) marks rest
    | none =>
      if combiningClass c = 0 then letter.toList ++ marks.reverse ++ joinFrom (some c) [] rest
      else joinFrom letter (c :: marks) rest

def canonical (text : List Char) : List Char :=
  joinFrom none [] (ordered text)

end Layerfile.Text
