import Layerfile.Instruction

/-!
Token kinds: instruction keywords, the comments and arguments that go with them,
layout, and text that nothing recognises.
-/

namespace Layerfile

/-- A comment belongs to the line or to the arguments of an instruction. -/
inductive CommentKind where
  | line
  | checkpoint
  | buildEnv
  | button
  | env
  | website
  | memory
  | secretEnv
  | user
  | file
deriving DecidableEq, Repr

inductive ArgumentKind where
  | buttonData
  | checkpointValue
  | cloneValue
  | buildEnvValue
  | secretEnvValue
  | assignment
  | spacedAssignment
  | image
  | memoryAmount
  | command
  | condition
  | conjunction
  | splitNumber
  | userName
  | websiteItem
  | file
deriving DecidableEq, Repr

inductive TokenKind where
  | instruction (instruction : Instruction)
  | comment (kind : CommentKind)
  | argument (kind : ArgumentKind)
  | whitespace
  | newline
  | unknown
deriving DecidableEq, Repr

def CommentKind.all : List CommentKind :=
  [.line, .checkpoint, .buildEnv, .button, .env, .website, .memory, .secretEnv, .user, .file]

def ArgumentKind.all : List ArgumentKind :=
  [.buttonData, .checkpointValue, .cloneValue, .buildEnvValue, .secretEnvValue, .assignment,
    .spacedAssignment, .image, .memoryAmount, .command, .condition, .conjunction, .splitNumber,
    .userName, .websiteItem, .file]

def CommentKind.name : CommentKind → String
  | line => "COMMENT"
  | checkpoint => "CHECKPOINT_COMMENT"
  | buildEnv => "BUILD_ENV_COMMENT"
  | button => "BUTTON_COMMENT"
  | env => "ENV_COMMENT"
  | website => "WEBSITE_COMMENT"
  | memory => "MEMORY_COMMENT"
  | secretEnv => "SECRET_ENV_COMMENT"
  | user => "USER_COMMENT"
  | file => "FILE_COMMENT"

def ArgumentKind.name : ArgumentKind → String
  | buttonData => "BUTTON_DATA"
  | checkpointValue => "CHECKPOINT_VALUE"
  | cloneValue => "CLONE_VALUE"
  | buildEnvValue => "BUILD_ENV_VALUE"
  | secretEnvValue => "SECRET_ENV_VALUE"
  | assignment => "ENV_VALUE"
  | spacedAssignment => "ENV_VALUE_WS"
  | image => "FROM_IMAGE"
  | memoryAmount => "MEMORY_AMOUNT"
  | command => "RUN_COMMAND"
  | condition => "SKIP_REMAINING_IF_VALUE"
  | conjunction => "SKIP_REMAINING_IF_AND"
  | splitNumber => "SPLIT_NUMBER"
  | userName => "USER_NAME"
  | websiteItem => "WEBSITE_ITEM"
  | file => "FILE"

namespace TokenKind

def all : List TokenKind :=
  Instruction.all.map instruction ++ CommentKind.all.map comment ++
    ArgumentKind.all.map argument ++ [whitespace, newline, unknown]

/-- The name a kind is written with. Keyword kinds join the words of their phrase. -/
def name : TokenKind → String
  | instruction i => "_".intercalate i.phrase
  | comment kind => kind.name
  | argument kind => kind.name
  | whitespace => "WHITESPACE"
  | newline => "NEWLINE"
  | unknown => "UNKNOWN"

def ofName? (text : String) : Option TokenKind :=
  all.find? fun kind => kind.name == text

def isInstruction : TokenKind → Bool
  | instruction _ => true
  | _ => false

/-- Layout is whitespace or a line ending. -/
def isLayout : TokenKind → Bool
  | whitespace | newline => true
  | _ => false

def isComment : TokenKind → Bool
  | comment _ => true
  | _ => false

theorem mem_all (kind : TokenKind) : kind ∈ all := by
  cases kind with
  | instruction i => simp [all, Instruction.mem_all]
  | comment kind => cases kind <;> decide
  | argument kind => cases kind <;> decide
  | whitespace => decide
  | newline => decide
  | unknown => decide

end TokenKind

end Layerfile
