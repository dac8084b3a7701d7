import Layerfile.Command.Run
import Layerfile.Disk
import Layerfile.Server.Stdio

/-!
The programs. Started under the name `layerfile-lsp` the program serves an editor on its
standard streams; under any other name it is the command line.
-/

namespace Layerfile

def Command.execute : Command → IO (Except CommandError String)
  | .inspect path report config => do
    let settings ← Disk.settings true config.toList
    return inspection path report settings (← Disk.readText path)
  | command => return command.output {}

def CommandError.tell (error : CommandError) : IO UInt32 := do
  let detail := (error.detail.map (": " ++ ·)).getD ""
  IO.eprintln (error.message ++ detail)
  return error.exitCode.toUInt32

def runCommand (texts : List String) : IO UInt32 := do
  match Command.read? texts with
  | none => CommandError.tell .usage
  | some command =>
    match ← command.execute with
    | .ok text =>
      IO.print text
      return 0
    | .error error => error.tell

def runServer : IO UInt32 := do
  match ← Disk.settings false [serverConfig] with
  | .error cause =>
    let detail := (cause.message.map (": " ++ ·)).getD ""
    IO.eprintln ("Invalid " ++ serverConfig ++ detail)
    return (CommandError.configuration cause).exitCode.toUInt32
  | .ok settings =>
    Stdio.serve (← IO.getStdin) (← IO.getStdout) { server := .start settings }
    return 0

end Layerfile

def main (texts : List String) : IO UInt32 := do
  let program ← IO.appPath
  if program.fileStem = some Layerfile.serverName then Layerfile.runServer
  else Layerfile.runCommand texts
