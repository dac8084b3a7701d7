import Layerfile.Server.Capabilities

/-!
The methods a client can call. Most of the standard ones are known by name and by the
shape of their parameters only.
-/

namespace Layerfile

inductive Method where
  /-- The client opens the session. -/
  | handshake
  | shutdown
  | exit
  /-- The client gives up a request. -/
  | cancel
  | didOpen
  | didChange
  | didClose
  | semanticTokens
  /-- A standard request that is not served. -/
  | unserved (params : Shape)
  /-- A standard notification without effect. -/
  | idle
  | unknown

namespace Method

open Params Shape

/-- Standard requests that are not served. -/
def unservedRequests : List (String × Shape) :=
  [("textDocument/willSaveWaitUntil", willSave),
    ("textDocument/declaration", ofPosition progress),
    ("textDocument/definition", ofPosition progress),
    ("textDocument/typeDefinition", ofPosition progress),
    ("textDocument/implementation", ofPosition progress),
    ("textDocument/references", references),
    ("textDocument/prepareCallHierarchy", ofPosition workDone),
    ("callHierarchy/incomingCalls", ofItem callItem),
    ("callHierarchy/outgoingCalls", ofItem callItem),
    ("textDocument/prepareTypeHierarchy", ofPosition workDone),
    ("typeHierarchy/supertypes", ofItem typeItem),
    ("typeHierarchy/subtypes", ofItem typeItem),
    ("textDocument/documentHighlight", ofPosition progress),
    ("textDocument/documentLink", ofDocument progress),
    ("documentLink/resolve", documentLink),
    ("textDocument/hover", ofPosition workDone),
    ("textDocument/codeLens", ofDocument progress),
    ("codeLens/resolve", codeLens),
    ("textDocument/foldingRange", ofDocument progress),
    ("textDocument/selectionRange",
      ofDocument (must "positions" (list position) :: progress)),
    ("textDocument/documentSymbol", ofDocument progress),
    ("textDocument/semanticTokens/full/delta",
      ofDocument (must "previousResultId" text :: progress)),
    ("textDocument/semanticTokens/range", ofRange progress),
    ("textDocument/inlineValue", inlineValue),
    ("textDocument/inlayHint", ofRange workDone),
    ("inlayHint/resolve", inlayHint),
    ("textDocument/moniker", ofPosition progress),
    ("textDocument/completion", completion),
    ("completionItem/resolve", completionItem),
    ("textDocument/signatureHelp", signatureHelp),
    ("textDocument/diagnostic", documentDiagnostics),
    ("workspace/diagnostic", workspaceDiagnostics),
    ("textDocument/codeAction", codeActions),
    ("codeAction/resolve", codeAction),
    ("textDocument/documentColor", ofDocument progress),
    ("textDocument/colorPresentation", ofRange (must "color" color :: progress)),
    ("textDocument/formatting", ofDocument (must "options" formatting :: workDone)),
    ("textDocument/rangeFormatting", ofRange (must "options" formatting :: workDone)),
    ("textDocument/onTypeFormatting",
      ofPosition [must "ch" text, must "options" formatting]),
    ("textDocument/rename", ofPosition (must "newName" text :: workDone)),
    ("textDocument/prepareRename", atPosition),
    ("textDocument/linkedEditingRange", ofPosition workDone),
    ("workspace/symbol", symbols),
    ("workspaceSymbol/resolve", workspaceSymbol),
    ("workspace/willCreateFiles", files (record [must "uri" text])),
    ("workspace/willRenameFiles", files (record [must "oldUri" text, must "newUri" text])),
    ("workspace/willDeleteFiles", files (record [must "uri" text])),
    ("workspace/executeCommand", execution)]

/-- Standard notifications without effect. -/
def idleNotifications : List String :=
  ["initialized", "textDocument/willSave", "textDocument/didSave",
    "workspace/didChangeConfiguration", "workspace/didChangeWorkspaceFolders",
    "workspace/didCreateFiles", "workspace/didRenameFiles", "workspace/didDeleteFiles",
    "workspace/didChangeWatchedFiles"]

def ofName (name : String) : Method :=
  match name with
  | "initialize" => handshake
  | "shutdown" => shutdown
  | "exit" => exit
  | "$/cancelRequest" => cancel
  | "textDocument/didOpen" => didOpen
  | "textDocument/didChange" => didChange
  | "textDocument/didClose" => didClose
  | "textDocument/semanticTokens/full" => semanticTokens
  | _ =>
    match unservedRequests.lookup name with
    | some params => unserved params
    | none => if idleNotifications.contains name then idle else unknown

end Method

end Layerfile
