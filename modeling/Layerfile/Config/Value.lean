import Layerfile.Keyed
import Layerfile.Number.Shortest
import Layerfile.Text.Lower
import Layerfile.Text.Quoted

/-!
Configuration values and how they are merged. A table is merged key by key into the
value it meets; every other value takes its place.
-/

namespace Layerfile

inductive Value where
  | null
  | bool (value : Bool)
  | int (value : Int)
  | float (value : Double)
  | str (value : String)
  | array (items : List Value)
  | table (entries : List (String × Value))
deriving Repr

namespace Value

/-- Whole numbers have 64 bits with their sign. -/
def isWord (n : Int) : Bool :=
  -0x8000000000000000 ≤ n && n < 0x8000000000000000

/-- The entries of a table; any other value counts as an empty one. -/
def entries : Value → List (String × Value)
  | table entries => entries
  | _ => []

/-- The items of an array; any other value counts as an empty one. -/
def items : Value → List Value
  | array items => items
  | _ => []

mutual

/-- Sets `key` in `root`. A table is merged into what stands there. -/
def assign (key : String) (value root : Value) : Value :=
  let name := Text.lower key
  match value with
  | table incoming =>
    let target := (root.entries.lookup name).getD (table [])
    table (put name (assignAll incoming target) root.entries)
  | null => table (put name null root.entries)
  | bool b => table (put name (bool b) root.entries)
  | int n => table (put name (int n) root.entries)
  | float x => table (put name (float x) root.entries)
  | str s => table (put name (str s) root.entries)
  | array items => table (put name (array items) root.entries)

def assignAll : List (String × Value) → Value → Value
  | [], root => root
  | (key, value) :: later, root => assignAll later (assign key value root)

end

/-- What a value is, in the words of an error message. -/
def describe : Value → String
  | null => "unit value"
  | bool b => "boolean `" ++ (if b then "true" else "false") ++ "`"
  | int n => "integer `" ++ toString n ++ "`"
  | float x => "floating point `" ++ x.pointedText ++ "`"
  | str s => "string " ++ Text.quoted s
  | array _ => "sequence"
  | table _ => "map"

def text? : Value → Option String
  | bool b => some (if b then "true" else "false")
  | int n => some (toString n)
  | float x => some x.text
  | str s => some s
  | null | array _ | table _ => none

end Value

end Layerfile
