import Layerfile.Json.Basic
import Layerfile.Text.Digits

/-!
Writing JSON, on one line or indented by two blanks a level.
-/

namespace Layerfile.Json

/-- A character inside a string. Quotes, backslashes and control characters are escaped. -/
def escape (c : Char) : List Char :=
  if c = '"' then ['\\', '"']
  else if c = '\\' then ['\\', '\\']
  else if c = '\n' then ['\\', 'n']
  else if c = '\r' then ['\\', 'r']
  else if c = '\t' then ['\\', 't']
  else if c = '\x08' then ['\\', 'b']
  else if c = '\x0c' then ['\\', 'f']
  else if c.toNat < 0x20 then
    ['\\', 'u', '0', '0', Text.hexDigit (c.toNat / 16), Text.hexDigit (c.toNat % 16)]
  else [c]

def quote (text : String) : String :=
  "\"" ++ String.ofList (text.toList.flatMap escape) ++ "\""

/-! ### On one line -/

mutual

def compact : Json → String
  | null => "null"
  | bool value => if value then "true" else "false"
  | int value => toString value
  | decimal digits => digits
  | str value => quote value
  | arr items => "[" ++ ",".intercalate (compactItems items) ++ "]"
  | obj fields => "\x7b" ++ ",".intercalate (compactFields fields) ++ "\x7d"

def compactItems : List Json → List String
  | [] => []
  | item :: items => compact item :: compactItems items

def compactFields : List (String × Json) → List String
  | [] => []
  | (name, value) :: fields => (quote name ++ ":" ++ compact value) :: compactFields fields

end

/-! ### Indented -/

/-- Lines of a bracketed list at `depth`, one for each entry. -/
def block (depth : Nat) (left right : String) (entries : List String) : String :=
  if entries.isEmpty then left ++ right
  else
    let indent := String.ofList (List.replicate (2 * (depth + 1)) ' ')
    let close := String.ofList (List.replicate (2 * depth) ' ')
    left ++ "\n" ++ indent ++ (",\n" ++ indent).intercalate entries ++ "\n" ++ close ++ right

mutual

def indented (depth : Nat) : Json → String
  | null => "null"
  | bool value => if value then "true" else "false"
  | int value => toString value
  | decimal digits => digits
  | str value => quote value
  | arr items => block depth "[" "]" (indentedItems (depth + 1) items)
  | obj fields => block depth "\x7b" "\x7d" (indentedFields (depth + 1) fields)

def indentedItems (depth : Nat) : List Json → List String
  | [] => []
  | item :: items => indented depth item :: indentedItems depth items

def indentedFields (depth : Nat) : List (String × Json) → List String
  | [] => []
  | (name, value) :: fields =>
    (quote name ++ ": " ++ indented depth value) :: indentedFields depth fields

end

/-- Indented from the left margin. -/
def pretty (value : Json) : String :=
  indented 0 value

end Layerfile.Json
