import Layerfile.Highlight.Delimiter
import Layerfile.Highlight.Legend
import Layerfile.Token.Tokenize

/-!
Highlighted spans. Each token is looked at on its own: it gives no span, one span
over all of its text, or a key span and a value span.
-/

namespace Layerfile

open Text

/-- A highlighted run on one line. Lines and columns count from zero. -/
structure Span where
  line : Nat
  start : Nat
  length : Nat
  category : Category
  modifiers : List Modifier := []
deriving DecidableEq, Repr

/-- Where the value span of a key and value token starts: at the first occurrence of the
second segment behind the key, or right after the first delimiter. It always runs to the
end of the token. -/
inductive ValueSpan where
  | absorbToEnd
  | structural
deriving DecidableEq, Repr

structure Compound where
  key : Category
  value : Category
  delimiter : Delimiter
deriving DecidableEq, Repr

inductive Highlight where
  | skip
  | simple (category : Category)
  | compound (compound : Compound)
deriving DecidableEq, Repr

/-- Positions are 32-bit words; the start of a value span can exceed them. -/
inductive PositionError where
  | overflow
deriving DecidableEq, Repr

def positionLimit : Nat := 0x100000000

def ArgumentKind.highlight : ArgumentKind → Highlight
  | conjunction => .simple .keyword
  | buildEnvValue | checkpointValue | buttonData | secretEnvValue | userName =>
    .simple .variableName
  | memoryAmount | splitNumber => .simple .number
  | file => .simple .string
  | spacedAssignment => .compound ⟨.variableName, .string, .whitespace⟩
  | assignment => .compound ⟨.variableName, .string, .equals⟩
  | condition => .compound ⟨.variableName, .string, .comparison⟩
  | cloneValue | image | command | websiteItem => .skip

def TokenKind.highlight : TokenKind → Highlight
  | instruction _ => .simple .keyword
  | comment _ => .simple .comment
  | argument kind => kind.highlight
  | whitespace | newline | unknown => .skip

namespace Token

def row (token : Token) : Nat := token.line - 1

def cover (token : Token) (category : Category) : Span :=
  { line := token.row, start := token.column, length := token.units, category }

def classify (token : Token) : Option Span :=
  match token.kind.highlight with
  | .simple category => some (token.cover category)
  | .skip | .compound _ => none

/-- Number of characters in front of the value. -/
def valueOffset (delimiter : Delimiter) (mode : ValueSpan) (cut : Cut) : Option Nat :=
  match mode with
  | .absorbToEnd =>
    (offsetOf? (delimiter.segment cut) (cut.delimiter ++ cut.after)).map (cut.before.length + ·)
  | .structural => some (cut.before.length + cut.delimiter.length)

/-- The key span and the value span of a token, none if its text has no delimiter. -/
def split (token : Token) (compound : Compound) (mode : ValueSpan) :
    Except PositionError (Option (Span × Span)) :=
  match compound.delimiter.cut? token.text.toList with
  | none => .ok none
  | some cut =>
    match valueOffset compound.delimiter mode cut with
    | none => .ok none
    | some offset =>
      let skipped := Text.units (token.text.toList.take offset)
      if token.column + skipped < positionLimit then
        .ok (some
          ({ line := token.row, start := token.column, length := Text.units cut.before,
             category := compound.key },
           { line := token.row, start := token.column + skipped,
             length := token.units - skipped, category := compound.value }))
      else .error .overflow

def spans (mode : ValueSpan) (token : Token) : Except PositionError (List Span) :=
  match token.kind.highlight with
  | .skip => .ok []
  | .simple category => .ok [token.cover category]
  | .compound compound =>
    match token.split compound mode with
    | .ok (some (key, value)) => .ok [key, value]
    | .ok none => .ok []
    | .error e => .error e

end Token

def collectSpans (mode : ValueSpan) : List Token → Except PositionError (List Span)
  | [] => .ok []
  | token :: tokens => do
    let first ← token.spans mode
    let later ← collectSpans mode tokens
    return first ++ later

def highlight (mode : ValueSpan) (source : String) : Except PositionError (List Span) :=
  collectSpans mode (tokenize source)

end Layerfile
