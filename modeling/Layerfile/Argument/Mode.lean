import Layerfile.Argument.Lexeme
import Layerfile.Token.Basic

/-!
How the arguments of each instruction are cut into pieces.
-/

namespace Layerfile

open Text

inductive ArgumentMode where
  /-- Words separated by blanks. -/
  | words (value : ArgumentKind) (comment : CommentKind)
  /-- Free text up to a comment. -/
  | line (value : ArgumentKind) (comment : CommentKind)
  /-- A shell command: all that follows the keyword. -/
  | command
  /-- Assignments `KEY=value`, or one `KEY value with spaces`. -/
  | env
  /-- Conditions joined by `AND`. -/
  | conditions
deriving DecidableEq, Repr

def Instruction.mode : Instruction → ArgumentMode
  | button => .line .buttonData .button
  | cache | copy | setupFile | wait | workdir => .words .file .file
  | checkpoint => .words .checkpointValue .checkpoint
  | clone => .words .cloneValue .line
  | env => .env
  | buildEnv => .words .buildEnvValue .buildEnv
  | base => .words .image .line
  | memory => .words .memoryAmount .memory
  | run | runBackground | runRepeatable => .command
  | secretEnv => .words .secretEnvValue .secretEnv
  | skipRemainingIf => .conditions
  | split => .words .splitNumber .line
  | exposeWebsite => .words .websiteItem .website
  | user => .words .userName .user

def WordLexeme.tokenKind (value : ArgumentKind) (comment : CommentKind) : WordLexeme → TokenKind
  | .blank => .whitespace
  | .comment => .comment comment
  | .word => .argument value

def TextLexeme.tokenKind (value : ArgumentKind) (comment : CommentKind) : TextLexeme → TokenKind
  | .blank => .whitespace
  | .comment => .comment comment
  | .text => .argument value

def CommandLexeme.tokenKind : CommandLexeme → TokenKind
  | blank => .whitespace
  | command => .argument .command

def EnvLexeme.tokenKind : EnvLexeme → TokenKind
  | blank => .whitespace
  | comment => .comment .env
  | assignment => .argument .assignment
  | bare => .argument .spacedAssignment

def ConditionLexeme.tokenKind : ConditionLexeme → TokenKind
  | blank => .whitespace
  | comment => .comment .line
  | conjunction => .argument .conjunction
  | condition => .argument .condition
  | word => .unknown

/-- Cuts trailing blanks off a value. Layout and what starts with `#` stay whole. -/
def Piece.trim (piece : Piece) : List Piece :=
  if piece.kind.isLayout || piece.text.head? == some '#' || (trailingBlanks piece.text).isEmpty then
    [piece]
  else [⟨piece.kind, trimRight piece.text⟩, ⟨.whitespace, trailingBlanks piece.text⟩]

/-- The piece of a lexeme, unknown if it has no kind. -/
def Lexeme.toPiece {κ : Type} (kindOf : κ → TokenKind) (lexeme : Lexeme κ) : Piece :=
  ⟨(lexeme.kind.map kindOf).getD .unknown, lexeme.text⟩

def ArgumentMode.cut : ArgumentMode → List Char → List Piece
  | words value comment, text =>
    (wordLexicon.scan text).flatMap fun lexeme =>
      (lexeme.toPiece (WordLexeme.tokenKind value comment)).trim
  | line value comment, text =>
    (textLexicon.scan text).flatMap fun lexeme =>
      (lexeme.toPiece (TextLexeme.tokenKind value comment)).trim
  | command, text =>
    (commandLexicon.scan text).flatMap fun lexeme =>
      (lexeme.toPiece CommandLexeme.tokenKind).trim
  | env, text => (envLexicon.scan text).map (Lexeme.toPiece EnvLexeme.tokenKind)
  | conditions, text =>
    (conditionLexicon.scan text).flatMap fun lexeme =>
      (lexeme.toPiece ConditionLexeme.tokenKind).trim

end Layerfile
