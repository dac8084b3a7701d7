import Layerfile.Config.Value
import Layerfile.Json.Read
import Layerfile.Text.Blank

/-!
Scalars of TOML: strings, numbers, dates and times. A date or time is kept as its text
in normal form.
-/

namespace Layerfile.Toml

open Reader

def newline : Reader Unit :=
  char '\n' <|> literal "\r\n"

def blanks : Reader Unit := do
  let _ ← takeWhile Text.isBlank

/-- Control characters other than the tab stand in no line. -/
def isLineChar (c : Char) : Bool :=
  c == '\t' || (0x20 ≤ c.toNat && c.toNat != 0x7F)

def comment : Reader Unit := do
  char '#'
  let _ ← takeWhile isLineChar

/-! ### Strings -/

def codePoint (digits : Nat) : Reader Char := do
  let code := Text.digitsValue 16 (← exactly digits Text.isHexDigit)
  if code.isValidChar then return Char.ofNat code else failure

def escaped : Reader Char := do
  char '\\'
  match ← satisfy (fun _ => true) with
  | 'b' => return '\x08'
  | 't' => return '\t'
  | 'n' => return '\n'
  | 'f' => return '\x0c'
  | 'r' => return '\r'
  | '"' => return '"'
  | '\\' => return '\\'
  | 'u' => codePoint 4
  | 'U' => codePoint 8
  | _ => failure

def basicChar : Reader Char :=
  satisfy fun c => isLineChar c && c != '"' && c != '\\'

def literalChar : Reader Char :=
  satisfy fun c => isLineChar c && c != '\''

/-- A string on one line with escapes. -/
def basicString : Reader String := do
  char '"'
  let chars ← many (basicChar <|> escaped)
  char '"'
  return String.ofList chars

/-- A string on one line without escapes. -/
def literalString : Reader String := do
  char '\''
  let chars ← many literalChar
  char '\''
  return String.ofList chars

/-- Quotes inside a string of several lines: one or two of them, and no third. -/
def innerQuotes (quote : Char) : Reader (List Char) := do
  let quotes ← takeWhile1 (· == quote)
  if quotes.length ≤ 2 then return quotes else failure

/-- The closing quotes of a string of several lines. Up to two more belong to the string. -/
def closingQuotes (quote : Char) : Reader (List Char) := do
  let quotes ← takeWhile1 (· == quote)
  if 3 ≤ quotes.length && quotes.length ≤ 5 then return quotes.drop 3 else failure

/-- A backslash at the end of a line joins the next text to it. -/
def joinedLines : Reader (List Char) := do
  char '\\'
  blanks
  newline
  let _ ← many (newline <|> (do let _ ← takeWhile1 Text.isBlank))
  return []

/-- The rest of a string of several lines, of which `piece` is a part without quotes. -/
def linesString (quote : Char) (piece : Reader (List Char)) : Reader String := do
  let _ ← optional newline
  let pieces ← many (piece <|> (newline *> pure ['\n']) <|> innerQuotes quote)
  let last ← closingQuotes quote
  return String.ofList (pieces.flatten ++ last)

def string : Reader String :=
  (do
    literal "\"\"\""
    linesString '"' ((do return [← basicChar]) <|> (do return [← escaped]) <|> joinedLines)) <|>
  basicString <|>
  (do
    literal "'''"
    linesString '\'' (do return [← literalChar])) <|>
  literalString

/-! ### Numbers -/

/-- Digits, with single underscores between them. -/
def digitRun (isDigit : Char → Bool) : Reader (List Char) := do
  let first ← satisfy isDigit
  let later ← many (satisfy isDigit <|> (do char '_'; satisfy isDigit))
  return first :: later

/-- Decimal digits without a leading zero. -/
def wholeDigits : Reader (List Char) := fun text =>
  match text with
  | '0' :: rest => some (['0'], rest)
  | _ => digitRun Char.isDigit text

def sign : Reader Bool := do
  match ← optional (satisfy fun c => c == '+' || c == '-') with
  | some '-' => return true
  | _ => return false

def wholeNumber (value : Int) : Reader Value :=
  if Value.isWord value then return .int value else failure

def based (mark : String) (base : Nat) (isDigit : Char → Bool) : Reader Value := do
  literal mark
  wholeNumber (Text.digitsValue base (← digitRun isDigit))

def integer : Reader Value :=
  based "0x" 16 Text.isHexDigit <|>
  based "0o" 8 (fun c => '0' ≤ c && c ≤ '7') <|>
  based "0b" 2 (fun c => c == '0' || c == '1') <|>
  (do
    let negative ← sign
    let size : Int := Text.digitsValue 10 (← wholeDigits)
    wholeNumber (if negative then -size else size))

def exponentPart : Reader Int := do
  let _ ← satisfy fun c => c == 'e' || c == 'E'
  let negative ← sign
  let size : Int := Text.digitsValue 10 (← digitRun Char.isDigit)
  return if negative then -size else size

def fractionPart : Reader (List Char) := do
  char '.'
  digitRun Char.isDigit

/-- A number with a fraction, an exponent or both. One that is too large is refused. -/
def decimal : Reader Value := do
  let negative ← sign
  let whole ← wholeDigits
  let fraction ← optional fractionPart
  let exponent ← optional exponentPart
  if fraction.isNone && exponent.isNone then failure
  let places := fraction.getD []
  let number := Double.ofDecimal negative (Text.digitsValue 10 (whole ++ places))
    (exponent.getD 0 - places.length)
  if number = .infinity false then failure
  return .float number

def special : Reader Value := do
  let negative ← sign
  (literal "inf" *> pure (.float (.infinity negative))) <|> (literal "nan" *> pure (.float .nan))

def boolean : Reader Value :=
  (literal "true" *> pure (.bool true)) <|> (literal "false" *> pure (.bool false))

/-! ### Dates and times -/

/-- A number of `count` digits from `low` to `high`, as digits. -/
def field (count low high : Nat) : Reader (List Char) := do
  let digits ← exactly count Char.isDigit
  let value := Text.digitsValue 10 digits
  if low ≤ value && value ≤ high then return digits else failure

def daysIn (year month : Nat) : Nat :=
  if month = 2 then
    if year % 4 = 0 && (year % 100 != 0 || year % 400 = 0) then 29 else 28
  else if month = 4 || month = 6 || month = 9 || month = 11 then 30
  else 31

def date : Reader (List Char) := do
  let year ← field 4 0 9999
  char '-'
  let month ← field 2 1 12
  char '-'
  let day ← field 2 1 (daysIn (Text.digitsValue 10 year) (Text.digitsValue 10 month))
  return year ++ '-' :: month ++ '-' :: day

/-- Fractions of a second keep nine places, less the zeros at their end. -/
def secondFraction : Reader (List Char) := do
  char '.'
  let digits ← takeWhile1 Char.isDigit
  let kept := (Double.trimZeros (digits.take 9)).1
  return if kept.isEmpty then [] else '.' :: kept

def time : Reader (List Char) := do
  let hour ← field 2 0 23
  char ':'
  let minute ← field 2 0 59
  char ':'
  let second ← field 2 0 60
  let fraction ← optional secondFraction
  return hour ++ ':' :: minute ++ ':' :: second ++ fraction.getD []

/-- The offset from universal time. An offset of zero has no minus. -/
def offset : Reader (List Char) :=
  (satisfy (fun c => c == 'Z' || c == 'z') *> pure ['Z']) <|>
  (do
    let mark ← satisfy fun c => c == '+' || c == '-'
    let hour ← field 2 0 23
    char ':'
    let minute ← field 2 0 59
    let amount := hour ++ ':' :: minute
    return (if amount == "00:00".toList then '+' else mark) :: amount)

def moment : Reader Value :=
  (do
    let day ← date
    let rest ← optional (do
      let _ ← satisfy fun c => c == 'T' || c == 't' || c == ' '
      let clock ← time
      return 'T' :: clock ++ (← optional offset).getD [])
    return .str (String.ofList (day ++ rest.getD []))) <|>
  (do return .str (String.ofList (← time)))

def scalar : Reader Value :=
  (Value.str <$> string) <|> boolean <|> moment <|> decimal <|> special <|> integer

end Layerfile.Toml
