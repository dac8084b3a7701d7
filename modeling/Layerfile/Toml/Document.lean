import Layerfile.Toml.Scalar
import Layerfile.Toml.Tree

/-!
TOML documents. Lines are read into statements, which then build the tables.
-/

namespace Layerfile.Toml

open Reader

/-- Arrays and inline tables may nest this deep, and keys have at most this many parts. -/
def depthLimit : Nat := 79

def isBareChar (c : Char) : Bool :=
  c.isAlphanum || c == '_' || c == '-'

def simpleKey : Reader String :=
  (do return String.ofList (← takeWhile1 isBareChar)) <|> basicString <|> literalString

/-- A dotted key: the way and the last part. -/
def key : Reader (List String × String) := do
  blanks
  let parts ← separated simpleKey (do blanks; char '.'; blanks)
  blanks
  match parts.getLast? with
  | some last => if parts.length ≤ depthLimit then return (parts.dropLast, last) else failure
  | none => failure

/-- Between the items of an array stand blanks, comments and line ends. -/
def gap : Reader Unit := do
  let _ ← many ((do let _ ← takeWhile1 Text.isBlank) <|> (do let _ ← optional comment; newline))

/-- A value whose arrays and inline tables nest no deeper than `depth`. -/
def value : Nat → Reader Value
  | 0 => scalar
  | depth + 1 =>
    scalar <|>
    (do
      char '['
      gap
      let items ← optional (separated (value depth) (do gap; char ','; gap))
      gap
      if items.isSome then
        let _ ← optional (char ',')
        gap
      char ']'
      return .array (items.getD [])) <|>
    (do
      char '\x7b'
      blanks
      let pair : Reader ((List String × String) × Value) := do
        let name ← key
        char '='
        blanks
        return (name, ← value depth)
      let pairs ← optional (separated pair (do blanks; char ','))
      blanks
      char '\x7d'
      let entries := (pairs.getD []).foldlM
        (fun entries ((path, name), value) => Entries.define name value path entries) []
      match entries with
      | some entries => return .table (Entries.toValues entries)
      | none => failure)

def statement : Reader Statement :=
  (do
    literal "[["
    let (path, name) ← key
    literal "]]"
    return .item path name) <|>
  (do
    char '['
    let (path, name) ← key
    char ']'
    return .header path name) <|>
  (do
    let (path, name) ← key
    char '='
    blanks
    return .pair path name (← value depthLimit))

def line : Reader (Option Statement) := do
  blanks
  let content ← optional statement
  blanks
  let _ ← optional comment
  return content

/-- A document may start with a byte order mark. -/
def document : Reader (List Statement) := do
  let _ ← optional (char (Char.ofNat 0xFEFF))
  let lines ← separated line newline
  atEnd
  return lines.filterMap id

def read? (text : String) : Option (List (String × Value)) := do
  Builder.build? (← readAll document text.toList)

end Layerfile.Toml
