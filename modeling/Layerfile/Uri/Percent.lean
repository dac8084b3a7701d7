import Layerfile.Text.Digits

/-!
Characters written by the codes of their bytes, with a percent sign before each.
-/

namespace Layerfile.Uri

def percentByte (byte : UInt8) : List Char :=
  ['%', (Text.hexDigit (byte.toNat / 16)).toUpper, (Text.hexDigit (byte.toNat % 16)).toUpper]

def percentEncode (c : Char) : List Char :=
  (String.singleton c).toUTF8.toList.flatMap percentByte

/-- Writes out the characters in `reserved`, control characters and all beyond ASCII. -/
def encode (reserved : List Char) (text : List Char) : String :=
  String.ofList (text.flatMap fun c =>
    if c.toNat < 0x20 || 0x7E < c.toNat || reserved.contains c then percentEncode c else [c])

def percentDecode : List Char → List UInt8
  | '%' :: a :: b :: rest =>
    match Text.number? 16 [a, b] with
    | some byte => UInt8.ofNat byte :: percentDecode rest
    | none => '%'.toUInt8 :: percentDecode (a :: b :: rest)
  | c :: rest => (String.singleton c).toUTF8.toList ++ percentDecode rest
  | [] => []

/-! ### What is written out in each part of an address -/

def fragmentSet : List Char := [' ', '"', '<', '>', '\x60']

def pathSet : List Char := fragmentSet ++ ['#', '?', '\x7b', '\x7d']

/-- In schemes with hosts a query has no apostrophe either. -/
def querySet (special : Bool) : List Char :=
  [' ', '"', '<', '>', '#'] ++ if special then ['\''] else []

def userSet : List Char := pathSet ++ "/:;=@[\\]^|".toList

end Layerfile.Uri
