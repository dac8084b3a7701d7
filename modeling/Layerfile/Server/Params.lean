import Layerfile.Server.Shape

/-!
Shapes of the parameters of the standard methods.
-/

namespace Layerfile.Params

open Shape

/-! ### Places -/

def position : Shape := record [must "line" count, must "character" count]

def range : Shape := record [must "start" position, must "end" position]

def location : Shape := record [must "uri" uri, must "range" range]

def document : Shape := record [must "uri" uri]

def versionedDocument : Shape := record [must "uri" uri, must "version" integer]

def documentItem : Shape :=
  record [must "uri" uri, must "languageId" text, must "version" integer, must "text" text]

/-! ### Progress -/

def token : Shape := union [integer, text]

/-- Progress of the work is told under a token. -/
def workDone : List (String × Presence × Shape) := [may "workDoneToken" token]

/-- Progress and partial results are told under tokens. -/
def progress : List (String × Presence × Shape) := workDone ++ [may "partialResultToken" token]

/-! ### Documents -/

def opened : Shape := record [must "textDocument" documentItem]

def change : Shape := record [may "range" range, may "rangeLength" count, must "text" text]

def changed : Shape :=
  record [must "textDocument" versionedDocument, must "contentChanges" (list change)]

def closed : Shape := record [must "textDocument" document]

def willSave : Shape := record [must "textDocument" document, must "reason" integer]

/-! ### Requests about a document, a position or a range -/

def ofDocument (more : List (String × Presence × Shape)) : Shape :=
  openRecord (must "textDocument" document :: more) any

def ofPosition (more : List (String × Presence × Shape)) : Shape :=
  ofDocument (must "position" position :: more)

def ofRange (more : List (String × Presence × Shape)) : Shape :=
  ofDocument (must "range" range :: more)

def atPosition : Shape := record [must "textDocument" document, must "position" position]

def references : Shape :=
  ofPosition (must "context" (record [must "includeDeclaration" flag]) :: progress)

def inlineValue : Shape :=
  ofRange (must "context" (record [must "frameId" integer, must "stoppedLocation" range])
    :: workDone)

/-! ### Commands, edits, diagnostics -/

def command : Shape :=
  record [must "title" text, must "command" text, may "arguments" (list any)]

def textEdit : Shape := record [must "range" range, must "newText" text]

def documentEdit : Shape :=
  record
    [must "textDocument" (record [must "uri" uri, may "version" integer]),
      must "edits" (list textEdit)]

/-- Files are created, renamed and deleted with options. -/
def fileOperations : List Shape :=
  [record [must "kind" (constant "create"), must "uri" uri,
      may "options" (record (mayAll ["overwrite", "ignoreIfExists"] flag)),
      may "annotationId" text],
    record [must "kind" (constant "rename"), must "oldUri" uri, must "newUri" uri,
      may "options" (record (mayAll ["overwrite", "ignoreIfExists"] flag)),
      may "annotationId" text],
    record [must "kind" (constant "delete"), must "uri" uri,
      may "options" (record
        (mayAll ["recursive", "ignoreIfNotExists"] flag ++ [may "annotationId" text]))]]

def changeAnnotation : Shape :=
  record [must "label" text, may "needsConfirmation" flag, may "description" text]

def workspaceEdit : Shape :=
  record
    [("changes", .defaulted, nullable (map uri (list textEdit))),
      may "documentChanges" (list (union (fileOperations ++ [documentEdit]))),
      may "changeAnnotations" (map text changeAnnotation)]

def diagnostic : Shape :=
  record
    [must "range" range, may "severity" integer, may "code" token,
      may "codeDescription" (record [must "href" uri]), may "source" text, must "message" text,
      may "relatedInformation" (list (record [must "location" location, must "message" text])),
      may "tags" (list integer), may "data" any]

def codeAction : Shape :=
  record
    [must "title" text, may "kind" text, may "diagnostics" (list diagnostic),
      may "edit" workspaceEdit, may "command" command, may "isPreferred" flag,
      may "disabled" (record [must "reason" text]), may "data" any]

def codeActions : Shape :=
  ofRange (must "context" (record
    [must "diagnostics" (list diagnostic), may "only" (list text), may "triggerKind" integer])
      :: progress)

/-! ### Items -/

def markup : Shape :=
  record [must "kind" (oneOf ["plaintext", "markdown"]), must "value" text]

def documentation : Shape := union [text, markup]

def callItem : Shape :=
  record
    [must "name" text, must "kind" integer, may "tags" (list integer), may "detail" text,
      must "uri" uri, must "range" range, must "selectionRange" range, may "data" any]

def typeItem : Shape :=
  record
    [must "name" text, must "kind" integer, may "tags" integer, may "detail" text,
      must "uri" uri, must "range" range, must "selectionRange" range, may "data" any]

def ofItem (item : Shape) : Shape := openRecord (must "item" item :: progress) any

def documentLink : Shape :=
  record [must "range" range, may "target" uri, may "tooltip" text, may "data" any]

def codeLens : Shape := record [must "range" range, may "command" command, may "data" any]

def labelPart : Shape :=
  record
    [must "value" text, may "tooltip" documentation, may "location" location,
      may "command" command]

def inlayHint : Shape :=
  record
    [must "position" position, must "label" (union [text, list labelPart]), may "kind" integer,
      may "textEdits" (list textEdit), may "tooltip" documentation, may "paddingLeft" flag,
      may "paddingRight" flag, may "data" any]

def insertReplaceEdit : Shape :=
  record [must "newText" text, must "insert" range, must "replace" range]

def completionItem : Shape :=
  record
    [must "label" text, may "labelDetails" (record (mayAll ["detail", "description"] text)),
      may "kind" integer, may "detail" text, may "documentation" documentation,
      may "deprecated" flag, may "preselect" flag, may "sortText" text, may "filterText" text,
      may "insertText" text, may "insertTextFormat" integer, may "insertTextMode" integer,
      may "textEdit" (union [textEdit, insertReplaceEdit]),
      may "additionalTextEdits" (list textEdit), may "command" command,
      may "commitCharacters" (list text), may "data" any, may "tags" (list integer)]

def workspaceSymbol : Shape :=
  record
    [must "name" text, must "kind" integer, may "tags" (list integer), may "containerName" text,
      must "location" (union [location, record [must "uri" uri]]), may "data" any]

/-! ### Contexts -/

def completion : Shape :=
  ofPosition (may "context" (record [must "triggerKind" integer, may "triggerCharacter" text])
    :: progress)

def parameter : Shape :=
  record [must "label" (union [text, pair count]), may "documentation" documentation]

def signature : Shape :=
  record
    [must "label" text, may "documentation" documentation, may "parameters" (list parameter),
      may "activeParameter" count]

def signatures : Shape :=
  record [must "signatures" (list signature), may "activeSignature" count,
    may "activeParameter" count]

def signatureHelp : Shape :=
  ofPosition (may "context" (record
    [must "triggerKind" integer, may "triggerCharacter" text, must "isRetrigger" flag,
      may "activeSignatureHelp" signatures]) :: workDone)

def color : Shape :=
  record [must "red" number, must "green" number, must "blue" number, must "alpha" number]

/-- Options of a formatter. It can have some of its own. -/
def formatting : Shape :=
  openRecord
    ([must "tabSize" count, must "insertSpaces" flag]
      ++ mayAll ["trimTrailingWhitespace", "insertFinalNewline", "trimFinalNewlines"] flag)
    (union [flag, integer, text])

/-! ### The workspace -/

def documentDiagnostics : Shape :=
  ofDocument (mayAll ["identifier", "previousResultId"] text ++ progress)

def workspaceDiagnostics : Shape :=
  openRecord
    ([may "identifier" text,
      must "previousResultIds" (list (record [must "uri" uri, must "value" text]))] ++ progress)
    any

def files (item : Shape) : Shape := record [must "files" (list item)]

def symbols : Shape := openRecord (must "query" text :: progress) any

def execution : Shape :=
  openRecord ([must "command" text, ("arguments", .defaulted, list any)] ++ workDone) any

end Layerfile.Params
