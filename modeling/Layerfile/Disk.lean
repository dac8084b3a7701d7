import Layerfile.Config.File

/-!
Reading files from disk.
-/

namespace Layerfile.Disk

/-- The number of an error, which some calls report below zero. -/
def errorNumber (code : UInt32) : Nat :=
  code.toInt32.toInt.natAbs

/-- The bytes of a file. Other failures than those of a `ReadError` are passed on. -/
def readBytes (path : String) : IO (Except ReadError ByteArray) := do
  try
    return .ok (← IO.FS.readBinFile path)
  catch error =>
    match error with
    | .noFileOrDirectory _ _ _ => return .error .notFound
    | .inappropriateType _ code _ =>
      return .error (if errorNumber code = 20 then .notDirectory else .isDirectory)
    | other => throw other

def readText (path : String) : IO (Except ReadError String) := do
  match ← readBytes path with
  | .error cause => return .error cause
  | .ok content =>
    match String.fromUTF8? content with
    | some text => return .ok text
    | none => return .error .notText

/-- The text of a configuration file, whose extension may be left out. -/
def readConfig (path : String) : IO (Option String) := do
  match ← readBytes path with
  | .ok content => return String.fromUTF8? content
  | .error _ =>
    match FileTree.withExtension? configExtension path with
    | none => return none
    | some longer => return (← readBytes longer).toOption.bind String.fromUTF8?

def settings (required : Bool) (paths : List String) : IO (Except ConfigError Settings) := do
  let layers ← paths.mapM fun path => return Layer.file required (← readConfig path)
  return Config.load layers

end Layerfile.Disk
