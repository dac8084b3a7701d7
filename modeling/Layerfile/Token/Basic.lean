import Layerfile.Text.Units
import Layerfile.Token.Kind

/-!
Tokens and their positions. Lines count from one, columns from zero in UTF-16
code units. Neither is bounded here: they are the 32-bit positions of an editor as long as
a source has fewer than 2^32 lines and no line of it reaches 2^32 code units.
-/

namespace Layerfile

/-- A piece of a line, not yet placed. -/
structure Piece where
  kind : TokenKind
  text : List Char
deriving DecidableEq, Repr

structure Token where
  kind : TokenKind
  line : Nat
  column : Nat
  text : String
deriving DecidableEq, Repr

def Token.units (token : Token) : Nat :=
  Text.units token.text.toList

/-- Places the pieces of a line one after the other, the first at `column`. -/
def Piece.place (line column : Nat) : List Piece → List Token
  | [] => []
  | piece :: pieces =>
    ⟨piece.kind, line, column, String.ofList piece.text⟩ ::
      place line (column + Text.units piece.text) pieces

end Layerfile
