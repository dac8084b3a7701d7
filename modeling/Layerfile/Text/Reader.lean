/-!
Readers take a value off the front of a text, or fail and take nothing.
-/

namespace Layerfile

abbrev Reader := StateT (List Char) Option

namespace Reader

variable {α : Type}

def satisfy (accepts : Char → Bool) : Reader Char := fun
  | [] => none
  | c :: rest => if accepts c then some (c, rest) else none

def char (c : Char) : Reader Unit := do
  let _ ← satisfy (· == c)

def literal (word : String) : Reader Unit := fun text =>
  if word.toList.isPrefixOf text then some ((), text.drop word.length) else none

def takeWhile (accepts : Char → Bool) : Reader (List Char) := fun text =>
  some (text.takeWhile accepts, text.dropWhile accepts)

/-- Takes the longest run, which must not be empty. -/
def takeWhile1 (accepts : Char → Bool) : Reader (List Char) := do
  let run ← takeWhile accepts
  if run.isEmpty then failure
  return run

def exactly (n : Nat) (accepts : Char → Bool) : Reader (List Char) := fun text =>
  let run := text.take n
  if run.length = n && run.all accepts then some (run, text.drop n) else none

def atEnd : Reader Unit := do
  guard (← get).isEmpty

/-- Reads values until `reader` fails, at most one for each character of the first text. -/
def manyFrom (reader : Reader α) : List Char → List Char → List α × List Char
  | [], text => ([], text)
  | _ :: later, text =>
    match reader text with
    | none => ([], text)
    | some (value, rest) =>
      let (values, rest') := manyFrom reader later rest
      (value :: values, rest')

/-- Reads as often as `reader` succeeds. As it takes something whenever it succeeds, the text
has a character for each value. -/
def many (reader : Reader α) : Reader (List α) := fun text =>
  some (manyFrom reader text text)

def separated (reader : Reader α) (separator : Reader Unit) : Reader (List α) := do
  let first ← reader
  let later ← many (do separator; reader)
  return first :: later

def readAll (reader : Reader α) (text : List Char) : Option α :=
  match reader text with
  | some (value, []) => some value
  | _ => none

end Reader

end Layerfile
