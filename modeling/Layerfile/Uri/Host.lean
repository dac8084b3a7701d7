import Layerfile.Uri.Address
import Layerfile.Uri.Domain
import Layerfile.Uri.Percent

/-!
Hosts of addresses.
-/

namespace Layerfile.Uri

/-- A host. Only some schemes know of domains; in others a host is any text. -/
inductive Host where
  | domain (name : String)
  | quad (numbers : List Nat)
  | pieces (pieces : List Nat)
  | other (text : String)
deriving DecidableEq, Repr

namespace Host

def isForbidden (c : Char) : Bool :=
  c == '\x00' || "\t\n\r #/:<>?@[\\]^|".toList.contains c

def bracketed? (text : List Char) : Option Host :=
  if text.getLast? == some ']' then (Address.pieces8? text.dropLast).map pieces else none

def known? (text : List Char) : Option Host := do
  let decoded ← String.fromUTF8? ⟨(percentDecode text).toArray⟩
  let name ← Domain.read? decoded.toList
  if name.isEmpty then none
  else if Address.endsInNumber name then (Address.quad? name).map quad
  else some (domain (String.ofList name))

def read? (special : Bool) (text : List Char) : Option Host :=
  match text with
  | '[' :: rest => bracketed? rest
  | _ =>
    if special then known? text
    else if text.any isForbidden then none
    else some (other (encode [] text))

end Host

end Layerfile.Uri
