import Layerfile.Text.Canonical
import Layerfile.Uri.Direction
import Layerfile.Uri.Folding
import Layerfile.Uri.Joiner
import Layerfile.Uri.Punycode

/-!
Domain names. Two texts name the same domain if they are folded to the same labels; a label
with other characters than plain ones is written in Punycode.
-/

namespace Layerfile.Uri.Domain

def mark : List Char := ['x', 'n', '-', '-']

/-- A label does not start with a mark of a letter, and joiners have something to do. -/
def isProper (label : List Char) : Bool :=
  !label.head?.any Text.isMark && joinersFit label

def isFolded (text : List Char) : Bool :=
  text.all (fun c => fold? c == some [c]) && Text.canonical text == text

def label? (label : List Char) : Option (List Char) := do
  if mark.isPrefixOf label then
    let text ← Punycode.decode? (label.drop mark.length)
    if !text.all Punycode.isPlain && !mark.isPrefixOf text && isFolded text && isProper text then
      some text
    else none
  else if isProper label then some label
  else none

def plainLabel (label : List Char) : List Char :=
  if label.all Punycode.isPlain then label else mark ++ Punycode.encode label

def isForbidden (c : Char) : Bool :=
  c.toNat ≤ 0x20 || c.toNat == 0x7F || "%#/:<>?@[\\]^|".toList.contains c

/-- The normal form of a name, none if it has a label that cannot stand in it. -/
def read? (text : List Char) : Option (List Char) := do
  let folded := Text.canonical (← text.mapM fold?).flatten
  let labels ← (Text.splitWhere (· == '.') folded).mapM label?
  if labels.any Direction.turns && !labels.all Direction.fits then none
  else
    let name := ['.'].intercalate (labels.map plainLabel)
    if name.any isForbidden then none else some name

end Layerfile.Uri.Domain
