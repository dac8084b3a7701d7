import Layerfile.Instruction

/-!
The lexicons of instruction arguments, one for each way of reading them. Each one
accepts every character but the line feed.
-/

namespace Layerfile

open Text

/-- Starts a word: any character of a word but the comment mark. -/
def opensWord (c : Char) : Bool :=
  isWordChar c && c != '#'

def Rule.word {κ : Type} (kind : κ) : Rule κ :=
  .headed kind opensWord isWordChar

/-! ### Words and free text -/

inductive WordLexeme where
  | blank
  | comment
  | word
deriving DecidableEq, Repr

def wordLexicon : Lexicon WordLexeme where
  rules := [.blanks .blank, .comment .comment, .word .word]

inductive TextLexeme where
  | blank
  | comment
  | text
deriving DecidableEq, Repr

/-- Free text runs up to a comment mark, trailing blanks included. -/
def textLexicon : Lexicon TextLexeme where
  rules := [.blanks .blank, .comment .comment,
    .headed .text opensWord fun c => c != '\n' && c != '#']

inductive CommandLexeme where
  | blank
  | command
deriving DecidableEq, Repr

/-- A command takes the rest of the line, comment marks included. -/
def commandLexicon : Lexicon CommandLexeme where
  rules := [.blanks .blank, .headed .command isWordChar (· != '\n')]

/-! ### Environment values -/

inductive EnvLexeme where
  | blank
  | comment
  | assignment
  | bare
deriving DecidableEq, Repr

/-- A word whose nonempty key holds neither `#` nor `=` and is followed by `=`. -/
def Rule.assignment {κ : Type} (kind : κ) : Rule κ where
  kind := kind
  measure text :=
    let isKeyChar c := opensWord c && c != '='
    let key := text.takeWhile isKeyChar
    match text.dropWhile isKeyChar with
    | '=' :: value =>
      if key.isEmpty then 0 else key.length + 1 + (value.takeWhile isWordChar).length
    | _ => 0

def envRules : List (Rule EnvLexeme) :=
  [.blanks .blank, .comment .comment, .assignment .assignment, .word .bare]

def isQuote (c : Char) : Bool :=
  c == '"' || c == '\''

/-- How far an assignment reaches whose quoted value is still open at the end of the
word: over the next such quote, up to the blank behind it. -/
def quotedStretch (word rest : List Char) : Nat :=
  match (word.dropWhile (· != '=')).drop 1 with
  | [] => 0
  | quote :: value =>
    if !isQuote quote || value.getLast? == some quote then 0
    else
      match rest.dropWhile (· != quote) with
      | [] => 0
      | _ :: after =>
        (rest.takeWhile (· != quote)).length + 1 + (after.takeWhile (!isBlank ·)).length

/-- The part of a text before the first comment mark that follows a blank. -/
def beforeComment : List Char → List Char
  | c :: '#' :: rest => if isBlank c then [c] else c :: beforeComment ('#' :: rest)
  | c :: rest => c :: beforeComment rest
  | [] => []

/-- How far a bare key reaches that is followed by a value: to the last character
that is not blank before a comment. -/
def spacedStretch (rest : List Char) : Nat :=
  match rest.takeWhile isBlank, rest.dropWhile isBlank with
  | _ :: _, c :: _ => if c = '#' then 0 else (trimRight (beforeComment rest)).length
  | _, _ => 0

def EnvLexeme.stretch : EnvLexeme → List Char → List Char → Nat
  | assignment, word, rest => quotedStretch word rest
  | bare, _, rest => spacedStretch rest
  | blank, _, _ | comment, _, _ => 0

def envLexicon : Lexicon EnvLexeme where
  rules := envRules
  stretch := EnvLexeme.stretch

/-! ### Conditions -/

inductive ConditionLexeme where
  | blank
  | comment
  | conjunction
  | condition
  | word
deriving DecidableEq, Repr

/-- The comparison operators are `=`, `!=`, `=~` and `!=~`. -/
def startsWithComparison : List Char → Bool
  | '=' :: _ => true
  | '!' :: '=' :: _ => true
  | _ => false

/-- A word whose nonempty key holds none of `#`, `=`, `!`, `~` and is followed by a
comparison. -/
def Rule.condition {κ : Type} (kind : κ) : Rule κ where
  kind := kind
  measure text :=
    let isKeyChar c := opensWord c && c != '=' && c != '!' && c != '~'
    let key := text.takeWhile isKeyChar
    let tail := text.dropWhile isKeyChar
    if key.isEmpty || !startsWithComparison tail then 0
    else key.length + (tail.takeWhile isWordChar).length

def conditionLexicon : Lexicon ConditionLexeme where
  rules := [.blanks .blank, .comment .comment, .literal .conjunction "AND".toList,
    .condition .condition, .word .word]

end Layerfile
