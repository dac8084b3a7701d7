import Layerfile.Report

/-!
Command lines. Arguments are read from left to right, and the first one that cannot be
understood decides.
-/

namespace Layerfile

inductive Command where
  | version
  | help
  | inspect (path : String) (report : Report) (config : Option String)
deriving DecidableEq, Repr

structure Arguments where
  path : Option String := none
  report : Option Report := none
  config : Option String := none
deriving DecidableEq, Repr

inductive ValueOption where
  | format
  | config
deriving DecidableEq, Repr

namespace ValueOption

def ofLong? : String → Option ValueOption
  | "format" => some format
  | "config" => some config
  | _ => none

def ofShort? : Char → Option ValueOption
  | 'f' => some format
  | 'c' => some config
  | _ => none

end ValueOption

/-- Options that end the reading of arguments. -/
def Command.ofLong? : String → Option Command
  | "version" => some version
  | "help" => some help
  | _ => none

def Command.ofShort? : Char → Option Command
  | 'V' => some version
  | 'h' => some help
  | _ => none

namespace Arguments

/-- Sets the value of an option. An option is set once, and a path is not empty. -/
def set (arguments : Arguments) (value : String) : ValueOption → Option Arguments
  | .format =>
    match arguments.report, Report.ofName? value with
    | none, some report => some { arguments with report }
    | _, _ => none
  | .config =>
    match arguments.config with
    | none => if value.isEmpty then none else some { arguments with config := value }
    | some _ => none

/-- Takes an argument that is no option: the path. -/
def position (arguments : Arguments) (value : String) : Option Arguments :=
  match arguments.path with
  | none => if value.isEmpty then none else some { arguments with path := value }
  | some _ => none

def finish (arguments : Arguments) : Option Command := do
  return .inspect (← arguments.path) (arguments.report.getD .spans) arguments.config

end Arguments

def cutAtEquals (text : List Char) : String × Option String :=
  (String.ofList (text.takeWhile (· != '=')),
    match text.dropWhile (· != '=') with
    | [] => none
    | _ :: value => some (String.ofList value))

inductive Argument where
  /-- From here on there are no options. -/
  | terminator
  | long (name : String) (value : Option String)
  | short (letters : List Char)
  | plain

namespace Argument

/-- A single dash is no option. -/
def classify (text : String) : Argument :=
  match text.toList with
  | ['-', '-'] => terminator
  | '-' :: '-' :: rest => long (cutAtEquals rest).1 (cutAtEquals rest).2
  | '-' :: letter :: letters => short (letter :: letters)
  | _ => plain

end Argument

inductive Effect where
  /-- The reading goes on. -/
  | proceed (arguments : Arguments)
  /-- The next argument is the value of an option. -/
  | needsValue (option : ValueOption)
  | done (command : Command)
  | refused

namespace Effect

def ofArguments? : Option Arguments → Effect
  | some arguments => .proceed arguments
  | none => refused

/-- The effect of a short option. What stands behind a letter that takes a value is the value,
with or without a `=` in front. -/
def ofShort (arguments : Arguments) (letters : List Char) : Effect :=
  match letters with
  | [] => refused
  | letter :: rest =>
    match Command.ofShort? letter, ValueOption.ofShort? letter with
    | some command, _ => done command
    | none, none => refused
    | none, some option =>
      match rest with
      | [] => needsValue option
      | '=' :: value => ofArguments? (arguments.set (String.ofList value) option)
      | value => ofArguments? (arguments.set (String.ofList value) option)

def ofLong (arguments : Arguments) (name : String) (value : Option String) : Effect :=
  match Command.ofLong? name, ValueOption.ofLong? name, value with
  | some command, _, none => done command
  | none, some option, none => needsValue option
  | none, some option, some value => ofArguments? (arguments.set value option)
  | _, _, _ => refused

end Effect

def Argument.effect (arguments : Arguments) (text : String) : Argument → Effect
  | terminator => .proceed arguments
  | long name value => .ofLong arguments name value
  | short letters => .ofShort arguments letters
  | plain => .ofArguments? (arguments.position text)

namespace Command

/-- Takes the arguments behind a terminator, none of which is an option. -/
def readPlain (arguments : Arguments) (texts : List String) : Option Command := do
  (← texts.foldlM Arguments.position arguments).finish

/-- Reads arguments from left to right; `pending` is an option that waits for its value, which
cannot look like an option. -/
def readFrom (arguments : Arguments) (pending : Option ValueOption) :
    List String → Option Command
  | [] => if pending.isSome then none else arguments.finish
  | text :: texts =>
    match pending, Argument.classify text with
    | some option, .plain => do readFrom (← arguments.set text option) none texts
    | some _, _ => none
    | none, .terminator => readPlain arguments texts
    | none, argument =>
      match argument.effect arguments text with
      | .proceed arguments => readFrom arguments none texts
      | .needsValue option => readFrom arguments (some option) texts
      | .done command => some command
      | .refused => none

def read? (texts : List String) : Option Command :=
  readFrom {} none texts

end Command

end Layerfile
