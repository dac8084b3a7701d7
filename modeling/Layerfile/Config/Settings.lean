import Layerfile.Config.Path
import Layerfile.Highlight.Span

/-!
Settings, read off a configuration value section by section.
-/

namespace Layerfile

structure Settings where
  documentSchemes : List String
  valueSpan : ValueSpan
  filter : String
deriving DecidableEq, Repr

inductive ConfigError where
  /-- A required file is missing or cannot be read as text. -/
  | missingFile
  /-- A file is not TOML. -/
  | malformedFile
  /-- The key of an override is not a path. -/
  | malformedKey
  /-- A position counts back beyond the start of an array. -/
  | indexBeforeStart
  /-- A position asks for an array of more items than fit. -/
  | arrayTooLong
  /-- A value stands where text is needed. -/
  | notText (found : String) (place : List Step)
  /-- A value stands where another kind of value is needed. -/
  | unexpected (found expected : String)
  | missingField (name : String)
  | emptySection (name : String)
  | unknownMode (name : String)
  | notMode
deriving DecidableEq, Repr

def ConfigError.message : ConfigError → Option String
  | missingFile | malformedFile | malformedKey | indexBeforeStart | arrayTooLong => none
  | notText found place =>
    some ("invalid type: " ++ found ++ ", expected a string for key `" ++ Step.render place ++ "`")
  | unexpected found expected => some ("invalid type: " ++ found ++ ", expected " ++ expected)
  | missingField name => some ("missing field `" ++ name ++ "`")
  | emptySection name => some ("invalid length 0, expected struct " ++ name ++ " with 1 element")
  | unknownMode name => some ("enum ValueSpanMode does not have variant constructor " ++ name)
  | notMode => some ("value of enum ValueSpanMode should be represented by either string " ++
      "or table with exactly one key")

def ValueSpan.name : ValueSpan → String
  | absorbToEnd => "absorb-to-end"
  | structural => "structural"

/-- The mode of a name in any letter case. -/
def ValueSpan.ofName? (text : String) : Option ValueSpan :=
  [absorbToEnd, structural].find? fun mode => mode.name == Text.lower text

namespace Value

/-- The value of the only field of a section and the step to it. A section is a table, or an
array that starts with the field. -/
def section? (struct field : String) : Value → Except ConfigError (Step × Value)
  | table entries =>
    match entries.lookup field with
    | some value => .ok (.key field, value)
    | none => .error (.missingField field)
  | array (value :: _) => .ok (.index 0, value)
  | array [] => .error (.emptySection struct)
  | other => .error (.unexpected other.describe ("struct " ++ struct))

def textAt (place : List Step) (value : Value) : Except ConfigError String :=
  match value.text? with
  | some text => .ok text
  | none => .error (.notText value.describe place)

/-- The texts of a list whose first item stands at `index`. -/
def textsAt (place : List Step) (index : Nat) : List Value → Except ConfigError (List String)
  | [] => .ok []
  | item :: items => do
    let first ← item.textAt (place ++ [.index index])
    let later ← textsAt place (index + 1) items
    return first :: later

def schemesAt (place : List Step) : Value → Except ConfigError (List String)
  | array items => textsAt place 0 items
  | other => .error (.unexpected other.describe "a sequence")

/-- A mode is given by its name, or by a table whose only key is the name. -/
def mode : Value → Except ConfigError ValueSpan
  | str name | table [(name, _)] =>
    match ValueSpan.ofName? name with
    | some mode => .ok mode
    | none => .error (.unknownMode name)
  | _ => .error .notMode

def topSection (root : Value) (name : String) : Except ConfigError Value :=
  match root.entries.lookup name with
  | some value => .ok value
  | none => .error (.missingField name)

def toSettings (root : Value) : Except ConfigError Settings := do
  let server ← root.topSection "server"
  let (serverStep, schemes) ← server.section? "ServerConfig" "document_schemes"
  let documentSchemes ← schemes.schemesAt [.key "server", serverStep]
  let highlighting ← root.topSection "highlighting"
  let (_, span) ← highlighting.section? "HighlightingConfig" "value_span"
  let valueSpan ← span.mode
  let logging ← root.topSection "logging"
  let (loggingStep, text) ← logging.section? "LoggingConfig" "filter"
  let filter ← text.textAt [.key "logging", loggingStep]
  return { documentSchemes, valueSpan, filter }

end Value

end Layerfile
