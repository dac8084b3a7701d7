/-!
JSON values. Numbers with a fraction or an exponent keep their text.
-/

namespace Layerfile

inductive Json where
  | null
  | bool (value : Bool)
  | int (value : Int)
  | decimal (digits : String)
  | str (value : String)
  | arr (items : List Json)
  | obj (fields : List (String × Json))
deriving Repr

namespace Json

/-- The value of a field; of several with the same name, the last. -/
def field? (name : String) : Json → Option Json
  | obj fields => (fields.reverse.find? (·.1 == name)).map Prod.snd
  | _ => none

def string? : Json → Option String
  | str value => some value
  | _ => none

def items? : Json → Option (List Json)
  | arr items => some items
  | _ => none

/-- A whole number from zero up to `limit`, exclusive. -/
def natBelow? (limit : Nat) : Json → Option Nat
  | int value => if 0 ≤ value && value < limit then some value.toNat else none
  | _ => none

def nat (n : Nat) : Json := int n

end Json

end Layerfile
