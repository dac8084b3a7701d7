import Layerfile.Argument.Mode
import Layerfile.Text.Line

/-!
Tokens of a source. Lines are read one by one: indentation, then a comment, an
instruction with its arguments, or text that nothing recognises. Such text never stands
beside more of it on the same line, so there are no runs of it to join.
-/

namespace Layerfile

open Text

/-- The pieces of a line after its indentation. -/
def statement : List Char → List Piece
  | [] => []
  | c :: rest =>
    if c = '#' then [⟨.comment .line, c :: rest⟩]
    else
      match headLexicon.next c rest with
      | (⟨some (.opener opener), word⟩, after) =>
        match opener.resolve after with
        | some keyword =>
          if atWordBoundary after then
            ⟨.instruction keyword.instruction, word ++ keyword.completion⟩ ::
              keyword.instruction.mode.cut keyword.arguments
          else [⟨.unknown, c :: rest⟩]
        | none => [⟨.unknown, c :: rest⟩]
      | _ => [⟨.unknown, c :: rest⟩]

/-- A piece for `text`, none if it is empty. -/
def Piece.ofText (kind : TokenKind) (text : List Char) : List Piece :=
  if text.isEmpty then [] else [⟨kind, text⟩]

def contentPieces (content : List Char) : List Piece :=
  Piece.ofText .whitespace (content.takeWhile isBlank) ++ statement (content.dropWhile isBlank)

/-- The pieces of a line, its ending included. -/
def Text.Line.pieces (line : Line) : List Piece :=
  contentPieces line.content ++ Piece.ofText .newline line.ending.text

/-- The tokens of `lines`, the first of which has the number `number`. -/
def placeLines (number : Nat) : List Line → List Token
  | [] => []
  | line :: later => Piece.place number 0 line.pieces ++ placeLines (number + 1) later

def tokenize (source : String) : List Token :=
  placeLines 1 (lines source.toList)

end Layerfile
