import Layerfile.Config.Settings
import Layerfile.Toml.Document

/-!
Layers of configuration. Files are merged over the built-in values in order; overrides
come last, wherever they stand among the layers. Two keys are one override only if they are read
as the same path, letter case included. Overrides whose paths overlap are set in the order in
which the paths first came.
-/

namespace Layerfile

/-- A file with its text, none if it cannot be read as text, or the value for a key. -/
inductive Layer where
  | file (required : Bool) (text : Option String)
  | override (key : String) (value : Value)

namespace Config

def defaults : Value :=
  .table
    [("server", .table [("document_schemes", .array [.str "file"])]),
      ("highlighting", .table [("value_span", .str "absorb-to-end")]),
      ("logging", .table [("filter", .str "info")])]

def ofIndex {α : Type} : Except IndexError α → Except ConfigError α
  | .ok value => .ok value
  | .error .beforeStart => .error .indexBeforeStart
  | .error .beyondCapacity => .error .arrayTooLong

/-- Sets a top-level entry of a file. Its key is a path if it can be read as one. -/
def mergeEntry (root : Value) (entry : String × Value) : Except ConfigError Value :=
  match Path.read? entry.1 with
  | some path => ofIndex (path.assign entry.2 root)
  | none => .ok (.assign entry.1 entry.2 root)

/-- Merges a file. An optional file that cannot be read counts as absent. -/
def mergeFile (root : Value) (required : Bool) : Option String → Except ConfigError Value
  | none => if required then .error .missingFile else .ok root
  | some text =>
    match Toml.read? text with
    | some entries => entries.foldlM mergeEntry root
    | none => .error .malformedFile

def mergeFiles : List Layer → Value → Except ConfigError Value
  | [], root => .ok root
  | .file required text :: layers, root => do mergeFiles layers (← mergeFile root required text)
  | .override _ _ :: layers, root => mergeFiles layers root

/-- Keeps the value of an override under its path, in the place of an earlier one. -/
def addOverride (settings : List (Path × Value)) : Layer → Except ConfigError (List (Path × Value))
  | .file _ _ => .ok settings
  | .override key value =>
    match Path.read? key with
    | some path => .ok (put path value settings)
    | none => .error .malformedKey

/-- The overrides among the layers, one value for each path. -/
def overrides (layers : List Layer) : Except ConfigError (List (Path × Value)) :=
  layers.foldlM addOverride []

def applyOverride (root : Value) (setting : Path × Value) : Except ConfigError Value :=
  ofIndex (setting.1.assign setting.2 root)

/-- The settings of layers. The keys of overrides are read before any file. -/
def load (layers : List Layer) : Except ConfigError Settings := do
  let settings ← overrides layers
  let merged ← mergeFiles layers defaults
  let root ← settings.foldlM applyOverride merged
  root.toSettings

end Config

end Layerfile
