import Layerfile.Command.Arguments
import Layerfile.Config.File
import Layerfile.Release

/-!
Running a command line in a directory.
-/

namespace Layerfile

inductive CommandError where
  | usage
  | configuration (cause : ConfigError)
  | unreadable (path : String) (cause : ReadError)
  | position (cause : PositionError)
deriving DecidableEq, Repr

namespace CommandError

/-- A misplaced position is not foreseen and ends the program at once. -/
def exitCode : CommandError → Nat
  | usage => 2
  | configuration .indexBeforeStart | configuration .arrayTooLong | position _ => 101
  | configuration _ | unreadable _ _ => 1

def message : CommandError → String
  | usage => "Usage: layerfile [OPTIONS] <PATH>"
  | configuration _ => "Error: invalid configuration"
  | unreadable path cause => "Error: failed to read " ++ path ++ ": " ++ cause.message
  | position _ => "Error: a position is too large"

def detail : CommandError → Option String
  | configuration cause => cause.message
  | _ => none

end CommandError

namespace Command

def helpText : String :=
  "Inspect the tokens and semantic highlighting of a Layerfile\n\n" ++
    "Usage: layerfile [OPTIONS] <PATH>\n\n" ++
    "Arguments:\n  <PATH>  Path to the Layerfile\n\n" ++
    "Options:\n" ++
    "  -f, --format <FORMAT>  What to print [default: spans] " ++
    "[possible values: tokens, spans, encoded]\n" ++
    "  -c, --config <CONFIG>  Configuration file layered over the built-in defaults\n" ++
    "  -h, --help             Print help\n" ++
    "  -V, --version          Print version\n"

/-- What a command prints about the file at `path`. The configuration comes before the file. -/
def inspection (path : String) (report : Report) (settings : Except ConfigError Settings)
    (source : Except ReadError String) : Except CommandError String := do
  let settings ← settings.mapError .configuration
  let source ← source.mapError (.unreadable path)
  let text ← (report.render settings.valueSpan source).mapError .position
  return text ++ "\n"

def output (tree : FileTree) : Command → Except CommandError String
  | version => .ok ("layerfile " ++ Layerfile.version ++ "\n")
  | help => .ok helpText
  | inspect path report config =>
    inspection path report (tree.settings config) (tree.read path)

def run (tree : FileTree) (texts : List String) : Except CommandError String :=
  match read? texts with
  | some command => command.output tree
  | none => .error .usage

end Command

end Layerfile
