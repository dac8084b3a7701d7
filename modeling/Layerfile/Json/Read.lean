import Layerfile.Json.Basic
import Layerfile.Text.Digits
import Layerfile.Text.Reader

/-!
Reading JSON.
-/

namespace Layerfile.Json

open Reader

/-- Containers may nest this deep. -/
def depthLimit : Nat := 127

def isSpace (c : Char) : Bool :=
  c == ' ' || c == '\t' || c == '\n' || c == '\r'

def space : Reader Unit := do
  let _ ← takeWhile isSpace

/-! ### Numbers -/

/-- No number but zero starts with a zero. -/
def wholePart : Reader (List Char) := do
  let digits ← takeWhile1 Char.isDigit
  if digits.head? == some '0' && digits.length != 1 then failure
  return digits

def fraction : Reader (List Char) := do
  char '.'
  return '.' :: (← takeWhile1 Char.isDigit)

def exponent : Reader (List Char) := do
  let mark ← satisfy fun c => c == 'e' || c == 'E'
  let sign ← optional (satisfy fun c => c == '+' || c == '-')
  return mark :: sign.toList ++ (← takeWhile1 Char.isDigit)

def number : Reader Json := do
  let sign ← optional (char '-')
  let whole ← wholePart
  let frac ← optional fraction
  let exp ← optional exponent
  let minus := if sign.isSome then ['-'] else []
  match frac, exp with
  | none, none =>
    let size := Text.digitsValue 10 whole
    if sign.isNone then return int size
    else if size = 0 then return decimal "-0.0"
    else return int (-size)
  | _, _ => return decimal (String.ofList (minus ++ whole ++ frac.getD [] ++ exp.getD []))

/-! ### Strings -/

def unit : Reader Nat := do
  return Text.digitsValue 16 (← exactly 4 Text.isHexDigit)

/-- A code point of four digits, or two surrogates of four digits each. -/
def codePoint : Reader Char := do
  let high ← unit
  if 0xDC00 ≤ high && high < 0xE000 then failure
  else if 0xD800 ≤ high && high < 0xDC00 then
    literal "\\u"
    let low ← unit
    if 0xDC00 ≤ low && low < 0xE000 then
      return Char.ofNat (0x10000 + (high - 0xD800) * 0x400 + (low - 0xDC00))
    else failure
  else return Char.ofNat high

def escaped : Reader Char := do
  char '\\'
  match ← satisfy (fun _ => true) with
  | '"' => return '"'
  | '\\' => return '\\'
  | '/' => return '/'
  | 'b' => return '\x08'
  | 'f' => return '\x0c'
  | 'n' => return '\n'
  | 'r' => return '\r'
  | 't' => return '\t'
  | 'u' => codePoint
  | _ => failure

def plainChar : Reader Char :=
  satisfy fun c => c != '"' && c != '\\' && 0x20 ≤ c.toNat

def string : Reader String := do
  char '"'
  let chars ← many (plainChar <|> escaped)
  char '"'
  return String.ofList chars

/-! ### Values -/

def comma : Reader Unit := do
  space
  char ','
  space

def scalar : Reader Json :=
  (literal "null" *> pure null) <|> (literal "true" *> pure (bool true)) <|>
    (literal "false" *> pure (bool false)) <|> (str <$> string) <|> number

/-- A value whose containers nest no deeper than `depth`. -/
def value : Nat → Reader Json
  | 0 => scalar
  | depth + 1 =>
    scalar <|>
    (do
      char '['
      space
      let items ← optional (separated (value depth) comma)
      space
      char ']'
      return arr (items.getD [])) <|>
    (do
      char '\x7b'
      space
      let field : Reader (String × Json) := do
        let name ← string
        space
        char ':'
        space
        return (name, ← value depth)
      let fields ← optional (separated field comma)
      space
      char '\x7d'
      return obj (fields.getD []))

def document : Reader Json := do
  space
  let content ← value depthLimit
  space
  return content

def read? (text : String) : Option Json :=
  readAll document text.toList

end Layerfile.Json
