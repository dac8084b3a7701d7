import Layerfile.Json.Read
import Layerfile.Json.Write
import Layerfile.Server.Session

/-!
A language server on a pair of streams. Each message is headed by its length in bytes.
-/

namespace Layerfile.Stdio

def lengthOf? (header : String) : Option Nat :=
  match header.splitOn ":" with
  | [name, value] => if name = "Content-Length" then value.trimAscii.toString.toNat? else none
  | _ => none

/-- Reads header lines up to an empty one; the result is none at the end of the input. -/
partial def readHeader (input : IO.FS.Stream) (length : Option Nat) : IO (Option Nat) := do
  let line ← input.getLine
  if line.isEmpty then return none
  else if line.trimAscii.isEmpty then return some (length.getD 0)
  else readHeader input ((lengthOf? line).or length)

/-- Reads bytes until there are `length` of them or the input ends. -/
partial def readBody (input : IO.FS.Stream) (length : Nat) (content : ByteArray) :
    IO ByteArray := do
  if length ≤ content.size then return content
  let more ← input.read (length - content.size).toUSize
  if more.isEmpty then return content else readBody input length (content ++ more)

def write (output : IO.FS.Stream) (reply : Reply) : IO Unit := do
  let text := reply.toJson.compact
  output.putStr ("Content-Length: " ++ toString text.utf8ByteSize ++ "\r\n\r\n" ++ text)
  output.flush

/-- Serves messages until the input ends or the client asks to exit. -/
partial def serve (input output : IO.FS.Stream) (session : Session) : IO Unit := do
  if session.phase = .exited then return
  let some length ← readHeader input none | return
  let content ← readBody input length .empty
  let (next, reply) := match (String.fromUTF8? content).bind Json.read? with
    | some value => session.step value
    | none => session.abort .unreadable
  if let some reply := reply then write output reply
  serve input output next

end Layerfile.Stdio
