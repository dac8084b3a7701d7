import Layerfile.Release
import Layerfile.Server.Documents
import Layerfile.Server.Method

/-!
A session with a client. Requests are answered only between a successful `initialize` and
`shutdown`; outside of it notifications are dropped. A message that cannot be read ends
the session.
-/

namespace Layerfile

inductive Phase where
  | uninitialized
  | initialized
  | shutDown
  | exited
deriving DecidableEq, Repr

inductive Refusal where
  | notInitialized
  | invalidRequest
  | methodNotFound
  | invalidParams
  | internal
  /-- The text of the message is not JSON. -/
  | unreadable
deriving DecidableEq, Repr

namespace Refusal

def code : Refusal → Int
  | notInitialized => -32002
  | invalidRequest => -32600
  | methodNotFound => -32601
  | invalidParams => -32602
  | internal => -32603
  | unreadable => -32700

def message : Refusal → String
  | notInitialized => "Server not initialized"
  | invalidRequest => "Invalid request"
  | methodNotFound => "Method not found"
  | invalidParams => "Invalid params"
  | internal => "Internal error"
  | unreadable => "Parse error"

end Refusal

/-- A call is a request if it has an id, otherwise a notification. -/
structure Call where
  id : Option Json
  method : String
  params : Option Json

inductive Message where
  | call (call : Call)
  /-- An answer of the client. -/
  | response

structure Reply where
  id : Json
  answer : Except Refusal Json

structure Session where
  phase : Phase := .uninitialized
  server : Server

def serverName : String := "layerfile-lsp"

def Legend.toJson (legend : Legend) : Json :=
  .obj [("tokenTypes", .arr (legend.categories.map .str)),
    ("tokenModifiers", .arr (legend.modifiers.map .str))]

/-- What a server tells about itself: documents are sent in full, and so are their tokens. -/
def serverInfo : Json :=
  .obj
    [("capabilities", .obj
      [("textDocumentSync", .nat 1),
        ("semanticTokensProvider", .obj
          [("legend", Legend.standard.toJson), ("full", .bool true)])]),
      ("serverInfo", .obj [("name", .str serverName), ("version", .str version)])]

def Refusal.toJson (refusal : Refusal) : Json :=
  .obj [("code", .int refusal.code), ("message", .str refusal.message)]

def Reply.toJson (reply : Reply) : Json :=
  .obj [("jsonrpc", .str "2.0"), ("id", reply.id),
    match reply.answer with
    | .ok result => ("result", result)
    | .error refusal => ("error", refusal.toJson)]

namespace Message

/-- An id is null, a text or a whole number of 64 bits. -/
def isId : Json → Bool
  | .null | .str _ => true
  | .int n => -0x8000000000000000 ≤ n && n < 0x8000000000000000
  | _ => false

def isError (value : Json) : Bool :=
  match value.field? "code", value.field? "message" with
  | some (.int n), some (.str _) => -0x8000000000000000 ≤ n && n < 0x8000000000000000
  | _, _ => false

/-- An object with an id and a result or an error. -/
def isResponse (value : Json) : Bool :=
  (value.field? "id").isSome &&
    ((value.field? "result").isSome || (value.field? "error").any isError)

/-- Reads a message. A call without a method has the empty one. -/
def ofJson? (value : Json) : Option Message :=
  let id := value.field? "id"
  if !id.all isId then none
  else if isResponse value then some .response
  else
    match value.field? "method" with
    | none => some (.call { id, method := "", params := value.field? "params" })
    | some (.str method) => some (.call { id, method, params := value.field? "params" })
    | some _ => none

end Message

namespace Call

def paramsOf (shape : Shape) (call : Call) : Option Json :=
  call.params.filter shape.accepts

def address? (shape : Shape) (document : Json) : Option Uri := do
  Uri.read? (← (← shape.part? "uri" document).string?)

/-- The event that a document notification tells, none if its parameters are not right. -/
def event? (call : Call) : Method → Option DocumentEvent
  | .didOpen => do
    let document ← Params.opened.part? "textDocument" (← call.paramsOf Params.opened)
    let text ← (← Params.documentItem.part? "text" document).string?
    return .opened (← address? Params.documentItem document) text
  | .didChange => do
    let params ← call.paramsOf Params.changed
    let document ← Params.changed.part? "textDocument" params
    let changes ← (← Params.changed.part? "contentChanges" params).items?
    let texts ← changes.mapM fun change => (Params.change.part? "text" change).bind Json.string?
    return .changed (← address? Params.versionedDocument document) texts
  | .didClose => do
    let document ← Params.closed.part? "textDocument" (← call.paramsOf Params.closed)
    return .closed (← address? Params.document document)
  | _ => none

end Call

/-- Why a request is refused in a phase that does not allow it. -/
def Phase.refusal : Phase → Refusal
  | .uninitialized => .notInitialized
  | _ => .invalidRequest

namespace Session

/-- Methods whose name starts with `$/` may be left unanswered. -/
def isReserved (method : String) : Bool :=
  ['$', '/'].isPrefixOf method.toList

def tokensJson (rows : List Row) : Json :=
  .obj [("data", .arr ((rows.flatMap Row.toList).map .nat))]

def tokens (session : Session) (call : Call) : Except Refusal Json :=
  let uri := do
    let params ← call.paramsOf (Params.ofDocument Params.progress)
    Call.address? Params.document (← params.field? "textDocument")
  match uri with
  | none => .error .invalidParams
  | some uri =>
    match session.server.rows uri with
    | .ok rows => .ok ((rows.map tokensJson).getD .null)
    | .error .overflow => .error .internal

/-- The answer to a request, none if it is left unanswered. -/
def request (session : Session) (call : Call) :
    Method → Session × Option (Except Refusal Json)
  | .handshake =>
    if session.phase != .uninitialized then (session, some (.error .invalidRequest))
    else if (call.paramsOf Capabilities.greeting).isSome then
      ({ session with phase := .initialized }, some (.ok serverInfo))
    else (session, some (.error .invalidParams))
  | .shutdown =>
    if session.phase != .initialized then (session, some (.error session.phase.refusal))
    else
      ({ session with phase := .shutDown },
        some (if call.params.isSome then .error .invalidParams else .ok .null))
  | .exit => ({ session with phase := .exited }, none)
  | .cancel => (session, some (.error .invalidRequest))
  | .semanticTokens =>
    if session.phase != .initialized then (session, some (.error session.phase.refusal))
    else (session, some (session.tokens call))
  | .unserved shape =>
    if session.phase != .initialized then (session, some (.error session.phase.refusal))
    else
      (session, some (.error
        (if (call.paramsOf shape).isSome then .methodNotFound else .invalidParams)))
  | .unknown =>
    (session, if isReserved call.method then none else some (.error .methodNotFound))
  | .didOpen | .didChange | .didClose | .idle => (session, some (.error session.phase.refusal))

def notify (session : Session) (call : Call) : Method → Session
  | .exit => { session with phase := .exited }
  | .shutdown =>
    if session.phase = .initialized then { session with phase := .shutDown } else session
  | method =>
    match session.phase, call.event? method with
    | .initialized, some event => { session with server := session.server.step event }
    | _, _ => session

/-- Takes a call. A request is answered under its id. -/
def take (session : Session) (call : Call) : Session × Option Reply :=
  let method := Method.ofName call.method
  match call.id with
  | none => (session.notify call method, none)
  | some id =>
    let (next, answer) := session.request call method
    (next, answer.map (Reply.mk id))

/-- Ends the session with a refusal that answers no request. -/
def abort (session : Session) (refusal : Refusal) : Session × Option Reply :=
  ({ session with phase := .exited }, some ⟨.null, .error refusal⟩)

/-- Takes a message. After the end of the session nothing is read. -/
def step (session : Session) (value : Json) : Session × Option Reply :=
  if session.phase = .exited then (session, none)
  else
    match Message.ofJson? value with
    | some (.call call) => session.take call
    | some .response => (session, none)
    | none => session.abort .invalidRequest

end Session

end Layerfile
