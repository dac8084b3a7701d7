import Layerfile.Highlight.Span

/-!
Relative rows. A row gives its position against the row before it: the lines in
between and, on the same line, the columns in between. Empty spans have no row.
-/

namespace Layerfile

structure Row where
  deltaLine : Nat
  deltaStart : Nat
  length : Nat
  category : Nat
  modifiers : Nat
deriving DecidableEq, Repr

structure Place where
  line : Nat
  start : Nat
deriving DecidableEq, Repr

namespace Row

/-- The row of a span behind `previous`. Differences stop at zero. -/
def ofSpan (legend : Legend) (previous : Place) (span : Span) : Row :=
  let deltaLine := span.line - previous.line
  { deltaLine
    deltaStart := if deltaLine = 0 then span.start - previous.start else span.start
    length := span.length
    category := legend.indexOf span.category.name
    modifiers := legend.bitset span.modifiers }

def encodeFrom (legend : Legend) (previous : Place) : List Span → List Row
  | [] => []
  | span :: spans =>
    if span.length = 0 then encodeFrom legend previous spans
    else ofSpan legend previous span :: encodeFrom legend ⟨span.line, span.start⟩ spans

def encode (legend : Legend) (spans : List Span) : List Row :=
  encodeFrom legend ⟨0, 0⟩ spans

/-- The place of a row behind `previous`. -/
def place (previous : Place) (row : Row) : Place :=
  if row.deltaLine = 0 then ⟨previous.line, previous.start + row.deltaStart⟩
  else ⟨previous.line + row.deltaLine, row.deltaStart⟩

def toList (row : Row) : List Nat :=
  [row.deltaLine, row.deltaStart, row.length, row.category, row.modifiers]

end Row

def highlightRows (mode : ValueSpan) (source : String) : Except PositionError (List Row) :=
  (highlight mode source).map (Row.encode .standard)

end Layerfile
