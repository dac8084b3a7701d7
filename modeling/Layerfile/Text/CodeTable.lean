import Layerfile.Text.Digits
import Layerfile.Text.Split

/-!
Tables from characters to texts. Each row has a first code point and the texts of the code
points from there on, with a blank between them. A text is written by hexadecimal codes with
dots between them; anything else stands for a character that is not in the table.
-/

namespace Layerfile.Text

abbrev CodeTable := List (Nat × String)

namespace CodeTable

def entries (row : String) : List (List Char) :=
  splitWhere (· == ' ') row.toList

def chars? (entry : List Char) : Option (List Char) :=
  (splitWhere (· == '.') entry).mapM fun code => (number? 16 code).map Char.ofNat

def get? (table : CodeTable) (c : Char) : Option (List Char) :=
  table.findSome? fun (first, row) =>
    if first ≤ c.toNat && c.toNat < first + row.utf8ByteSize then
      (entries row)[c.toNat - first]?.bind chars?
    else none

/-- The character that has the text. -/
def find? (table : CodeTable) (text : List Char) : Option Char :=
  table.findSome? fun (first, row) =>
    ((entries row).findIdx? (chars? · == some text)).map fun i => Char.ofNat (first + i)

end CodeTable

end Layerfile.Text
