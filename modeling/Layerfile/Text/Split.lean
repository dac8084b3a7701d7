/-!
Texts in parts.
-/

namespace Layerfile.Text

/-- The parts of a text between the characters that divide it. -/
def splitWhere (divides : Char → Bool) : List Char → List (List Char)
  | [] => [[]]
  | c :: rest =>
    if divides c then [] :: splitWhere divides rest
    else
      match splitWhere divides rest with
      | [] => [[c]]
      | first :: later => (c :: first) :: later

def splitFirst (mark : Char) (text : List Char) : List Char × Option (List Char) :=
  match text.dropWhile (· != mark) with
  | _ :: after => (text.takeWhile (· != mark), some after)
  | [] => (text, none)

def splitLast? (mark : Char) (text : List Char) : Option (List Char × List Char) :=
  match text.reverse.dropWhile (· != mark) with
  | _ :: before => some (before.reverse, (text.reverse.takeWhile (· != mark)).reverse)
  | [] => none

end Layerfile.Text
