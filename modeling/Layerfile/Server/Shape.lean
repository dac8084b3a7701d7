import Layerfile.Json.Basic
import Layerfile.Uri

/-!
Shapes of JSON values. A record is an object, or the list of the values of its fields in
order; fields that a shape does not name are ignored.
-/

namespace Layerfile

/-- When a field of a record can be left out. -/
inductive Presence where
  | required
  /-- Can be left out of an object, but not of a list. -/
  | optional
  | defaulted
deriving DecidableEq, Repr

inductive Shape where
  | any
  | text
  | constant (content : String)
  | flag
  /-- A whole number of 32 bits without a sign. -/
  | count
  /-- A whole number of 32 bits with a sign. -/
  | integer
  | number
  | uri
  /-- One of several names, alone or as the only field of an object with the value null. -/
  | oneOf (names : List String)
  | nullable (content : Shape)
  | list (item : Shape)
  /-- A list of two items. -/
  | pair (item : Shape)
  | map (keys values : Shape)
  | union (choices : List Shape)
  | record (fields : List (String × Presence × Shape))
  /-- A record that cannot be a list, and whose fields that are not named have a shape too. -/
  | openRecord (fields : List (String × Presence × Shape)) (others : Shape)

namespace Shape

mutual

def accepts : Shape → Json → Bool
  | any, _ => true
  | text, value => value.string?.isSome
  | constant content, value => value.string? == some content
  | flag, .bool _ => true
  | flag, _ => false
  | count, value => (value.natBelow? 0x100000000).isSome
  | integer, .int n => -0x80000000 ≤ n && n < 0x80000000
  | integer, _ => false
  | number, .int _ => true
  | number, .decimal _ => true
  | number, _ => false
  | uri, value => (value.string?.bind Uri.read?).isSome
  | oneOf names, .str chosen => names.contains chosen
  | oneOf names, .obj [(chosen, .null)] => names.contains chosen
  | oneOf _, _ => false
  | nullable _, .null => true
  | nullable content, value => content.accepts value
  | list item, .arr values => values.all item.accepts
  | list _, _ => false
  | pair item, .arr [first, second] => item.accepts first && item.accepts second
  | pair _, _ => false
  | map keys values, .obj entries =>
    entries.all fun (key, value) => keys.accepts (.str key) && values.accepts value
  | map _ _, _ => false
  | union choices, value => acceptsSome choices value
  | record fields, .obj entries => acceptsFields fields (.obj entries)
  | record fields, .arr items => acceptsItems fields items
  | record _, _ => false
  | openRecord fields others, .obj entries =>
    acceptsFields fields (.obj entries) &&
      entries.all fun (key, value) => fields.any (·.1 == key) || others.accepts value
  | openRecord _ _, _ => false

def acceptsSome : List Shape → Json → Bool
  | [], _ => false
  | choice :: choices, value => choice.accepts value || acceptsSome choices value

/-- Every field of an object has its shape, and those that are required are there. -/
def acceptsFields : List (String × Presence × Shape) → Json → Bool
  | [], _ => true
  | (field, presence, shape) :: fields, value =>
    (match value.field? field with
      | some content => shape.accepts content
      | none => presence != .required) && acceptsFields fields value

/-- The items are the values of the fields in order. -/
def acceptsItems : List (String × Presence × Shape) → List Json → Bool
  | [], items => items.isEmpty
  | (_, presence, _) :: fields, [] => presence == .defaulted && acceptsItems fields []
  | (_, _, shape) :: fields, item :: items => shape.accepts item && acceptsItems fields items

end

def part? (shape : Shape) (field : String) (value : Json) : Option Json :=
  match shape, value with
  | record fields, .arr items => items[fields.findIdx (·.1 == field)]?
  | _, _ => value.field? field

/-! ### Fields -/

def must (field : String) (shape : Shape) : String × Presence × Shape :=
  (field, .required, shape)

def may (field : String) (shape : Shape) : String × Presence × Shape :=
  (field, .optional, nullable shape)

/-- Fields that can be null, all of one shape. -/
def mayAll (fields : List String) (shape : Shape) : List (String × Presence × Shape) :=
  fields.map (may · shape)

end Shape

end Layerfile
