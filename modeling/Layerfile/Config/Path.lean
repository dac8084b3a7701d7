import Layerfile.Config.Value
import Layerfile.Text.Blank
import Layerfile.Text.Reader

/-!
Paths into a configuration, such as `server.document_schemes[0]`.
-/

namespace Layerfile

inductive Step where
  | key (name : String)
  | index (position : Int)
deriving DecidableEq, Repr

/-- A path starts with a key. -/
structure Path where
  first : String
  later : List Step
deriving DecidableEq, Repr

namespace Path

open Reader

def isNameChar (c : Char) : Bool :=
  c.isAlphanum || c == '_' || c == '-' || c == ' '

def name : Reader String := do
  return String.ofList (← takeWhile1 isNameChar)

/-- A position is a whole number of 64 bits with its sign. -/
def position : Reader Int := do
  let _ ← takeWhile Text.isBlank
  let sign ← optional (char '-')
  let digits ← takeWhile1 Char.isDigit
  let _ ← takeWhile Text.isBlank
  let size : Int := digits.foldl (fun n c => n * 10 + (c.toNat - '0'.toNat)) 0
  let value := if sign.isSome then -size else size
  if Value.isWord value then return value else failure

def step : Reader Step :=
  (do char '.'; return .key (← name)) <|>
  (do
    char '['
    let i ← position
    char ']'
    return .index i)

def path : Reader Path := do
  let first ← name
  return ⟨first, ← many step⟩

def read? (text : String) : Option Path :=
  readAll path text.toList

end Path

/-- The text of steps: keys behind a point, positions in brackets. -/
def Step.render : List Step → String
  | [] => ""
  | step :: steps =>
    let own := match step with
      | key name => name
      | index i => "[" ++ toString i ++ "]"
    let point := match steps with
      | key _ :: _ => "."
      | _ => ""
    own ++ point ++ render steps

/-- Why a position cannot be used. One that counts from the end can fall before the start, and
one beyond the end can ask for more items than an array has room for. -/
inductive IndexError where
  | beforeStart
  | beyondCapacity
deriving DecidableEq, Repr

def resolveIndex (position : Int) (length : Nat) : Except IndexError Nat :=
  if 0 ≤ position then .ok position.toNat
  else if (-position).toNat ≤ length then .ok (length - (-position).toNat)
  else .error .beforeStart

/-- The most items of an array: each has 96 bytes, and all together must fit in the signed 64-bit
range, rounded down to 16 bytes. -/
def arrayCapacity : Nat :=
  0x7FFFFFFFFFFFFFF0 / 96

/-- Fills a list up with null until it reaches `place`. -/
def fillTo (place : Nat) (items : List Value) : Except IndexError (List Value) :=
  if place < items.length then .ok items
  else if place < arrayCapacity then
    .ok (items ++ List.replicate (place + 1 - items.length) Value.null)
  else .error .beyondCapacity

/-- Sets the value behind `step` and `steps`. On the way a value that has no such step gives
way to an empty table or array, and an array that is too short is filled up. -/
def Value.assignStep (value : Value) : Step → List Step → Value → Except IndexError Value
  | .key name, [], root => .ok (.assign name value root)
  | .key name, next :: later, root => do
    let name := Text.lower name
    let inner ← assignStep value next later ((root.entries.lookup name).getD .null)
    return .table (put name inner root.entries)
  | .index position, [], root => do
    let place ← resolveIndex position root.items.length
    let items ← fillTo place root.items
    return .array (items.set place value)
  | .index position, next :: later, root => do
    let place ← resolveIndex position root.items.length
    let items ← fillTo place root.items
    let inner ← assignStep value next later (items.getD place .null)
    return .array (items.set place inner)

def Path.assign (path : Path) (value root : Value) : Except IndexError Value :=
  value.assignStep (.key path.first) path.later root

end Layerfile
