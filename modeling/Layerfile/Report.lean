import Layerfile.Highlight.Row
import Layerfile.Json.Write

/-!
Reports on a Layerfile: its tokens, its highlighted spans or its relative rows, as JSON.
-/

namespace Layerfile

def Token.toJson (token : Token) : Json :=
  .obj [("kind", .str token.kind.name), ("line", .nat token.line), ("column", .nat token.column),
    ("text", .str token.text)]

def Span.toJson (span : Span) : Json :=
  .obj [("line", .nat span.line), ("start_character", .nat span.start),
    ("length", .nat span.length), ("category", .str span.category.name),
    ("modifiers", .arr (span.modifiers.map fun modifier => .str modifier.name))]

def Row.toJson (row : Row) : Json :=
  .arr (row.toList.map .nat)

inductive Report where
  | tokens
  | spans
  | encoded
deriving DecidableEq, Repr

namespace Report

def name : Report → String
  | tokens => "tokens"
  | spans => "spans"
  | encoded => "encoded"

def ofName? (text : String) : Option Report :=
  [tokens, spans, encoded].find? (·.name == text)

/-- The text of a report. Rows stand on one line, tokens and spans are indented. -/
def render (mode : ValueSpan) (source : String) : Report → Except PositionError String
  | tokens => .ok (Json.arr ((tokenize source).map Token.toJson)).pretty
  | spans => (highlight mode source).map fun spans => (Json.arr (spans.map Span.toJson)).pretty
  | encoded => (highlightRows mode source).map fun rows => (Json.arr (rows.map Row.toJson)).compact

end Report

end Layerfile
