import Layerfile.Server.Params

/-!
Shapes of what a client tells about itself when it opens a session.
-/

namespace Layerfile.Capabilities

open Shape

/-- Whether a capability can be registered later. -/
def dynamic : String := "dynamicRegistration"

/-- A record of flags. -/
def flags (names : List String) : Shape := record (mayAll names flag)

def registrable : Shape := flags [dynamic]

def refreshable : Shape := flags ["refreshSupport"]

/-- The properties that are resolved later. -/
def resolvable : Shape := record [must "properties" (list text)]

def integers : Shape := record [may "valueSet" (list integer)]

def markupKinds : Shape := list (oneOf ["plaintext", "markdown"])

/-- A field for the tags that are understood; a flag stands for none of them. -/
def tags : String × Presence × Shape :=
  ("tagSupport", .defaulted,
    nullable (union [flag, record [must "valueSet" (list integer)]]))

/-! ### The workspace -/

def workspaceEdit : Shape :=
  record
    [may "documentChanges" flag,
      may "resourceOperations" (list (oneOf ["create", "rename", "delete"])),
      may "failureHandling" (oneOf
        ["abort", "transactional", "textOnlyTransactional", "undo"]),
      may "normalizesLineEndings" flag, may "changeAnnotationSupport" (flags ["groupsOnLabel"])]

def workspaceSymbol : Shape :=
  record [may dynamic flag, may "symbolKind" integers, tags, may "resolveSupport" resolvable]

def fileOperations : Shape :=
  flags [dynamic, "didCreate", "willCreate", "didRename", "willRename", "didDelete", "willDelete"]

def workspace : Shape :=
  record
    [may "applyEdit" flag, may "workspaceEdit" workspaceEdit,
      may "didChangeConfiguration" registrable,
      may "didChangeWatchedFiles" (flags [dynamic, "relativePatternSupport"]),
      may "symbol" workspaceSymbol, may "executeCommand" registrable,
      may "workspaceFolders" flag, may "configuration" flag, may "semanticTokens" refreshable,
      may "codeLens" refreshable, may "fileOperations" fileOperations,
      may "inlineValue" refreshable, may "inlayHint" refreshable, may "diagnostic" refreshable]

/-! ### Documents -/

def completionItem : Shape :=
  record
    [may "snippetSupport" flag, may "commitCharactersSupport" flag,
      may "documentationFormat" markupKinds, may "deprecatedSupport" flag,
      may "preselectSupport" flag, tags, may "insertReplaceSupport" flag,
      may "resolveSupport" resolvable,
      may "insertTextModeSupport" (record [must "valueSet" (list integer)]),
      may "labelDetailsSupport" flag]

def completion : Shape :=
  record
    [may dynamic flag, may "completionItem" completionItem, may "completionItemKind" integers,
      may "contextSupport" flag, may "insertTextMode" integer,
      may "completionList" (record [may "itemDefaults" (list text)])]

def signatureHelp : Shape :=
  record
    [may dynamic flag,
      may "signatureInformation" (record
        [may "documentationFormat" markupKinds,
          may "parameterInformation" (flags ["labelOffsetSupport"]),
          may "activeParameterSupport" flag]),
      may "contextSupport" flag]

def documentSymbol : Shape :=
  record
    [may dynamic flag, may "symbolKind" integers, may "hierarchicalDocumentSymbolSupport" flag,
      tags]

def codeAction : Shape :=
  record
    [may dynamic flag,
      may "codeActionLiteralSupport" (record
        [must "codeActionKind" (record [must "valueSet" (list text)])]),
      may "isPreferredSupport" flag, may "disabledSupport" flag, may "dataSupport" flag,
      may "resolveSupport" resolvable, may "honorsChangeAnnotations" flag]

def rename : Shape :=
  record
    [may dynamic flag, may "prepareSupport" flag, may "prepareSupportDefaultBehavior" integer,
      may "honorsChangeAnnotations" flag]

def publishDiagnostics : Shape :=
  record
    ([may "relatedInformation" flag, tags]
      ++ mayAll ["versionSupport", "codeDescriptionSupport", "dataSupport"] flag)

def foldingRange : Shape :=
  record
    [may dynamic flag, may "rangeLimit" count, may "lineFoldingOnly" flag,
      may "foldingRangeKind" (record
        [may "valueSet" (list (oneOf ["comment", "imports", "region"]))]),
      may "foldingRange" (flags ["collapsedText"])]

def semanticTokens : Shape :=
  record
    ([may dynamic flag,
      must "requests" (record
        [may "range" flag, may "full" (union [flag, openRecord [may "delta" flag] any])]),
      must "tokenTypes" (list text), must "tokenModifiers" (list text),
      must "formats" (list text)]
      ++ mayAll ["overlappingTokenSupport", "multilineTokenSupport", "serverCancelSupport",
        "augmentsSyntaxTokens"] flag)

def inlayHint : Shape := record [may dynamic flag, may "resolveSupport" resolvable]

def link : Shape := flags [dynamic, "linkSupport"]

def textDocument : Shape :=
  record
    [may "synchronization" (flags [dynamic, "willSave", "willSaveWaitUntil", "didSave"]),
      may "completion" completion,
      may "hover" (record [may dynamic flag, may "contentFormat" markupKinds]),
      may "signatureHelp" signatureHelp, may "references" registrable,
      may "documentHighlight" registrable, may "documentSymbol" documentSymbol,
      may "formatting" registrable, may "rangeFormatting" registrable,
      may "onTypeFormatting" registrable, may "declaration" link, may "definition" link,
      may "typeDefinition" link, may "implementation" link, may "codeAction" codeAction,
      may "codeLens" registrable, may "documentLink" (flags [dynamic, "tooltipSupport"]),
      may "colorProvider" registrable, may "rename" rename,
      may "publishDiagnostics" publishDiagnostics, may "foldingRange" foldingRange,
      may "selectionRange" registrable, may "linkedEditingRange" registrable,
      may "callHierarchy" registrable, may "semanticTokens" semanticTokens,
      may "moniker" registrable, may "typeHierarchy" registrable, may "inlineValue" registrable,
      may "inlayHint" inlayHint, may "diagnostic" (flags [dynamic, "relatedDocumentSupport"])]

/-! ### The rest -/

def window : Shape :=
  record
    [may "workDoneProgress" flag,
      may "showMessage" (record
        [may "messageActionItem" (flags ["additionalPropertiesSupport"])]),
      may "showDocument" (record [must "support" flag])]

def general : Shape :=
  record
    [may "regularExpressions" (record [must "engine" text, may "version" text]),
      may "markdown" (record
        [must "parser" text, may "version" text, may "allowedTags" (list text)]),
      may "staleRequestSupport" (record
        [must "cancel" flag, must "retryOnContentModified" (list text)]),
      may "positionEncodings" (list text)]

def client : Shape :=
  record
    [may "workspace" workspace, may "textDocument" textDocument, may "window" window,
      may "general" general, may "experimental" any]

/-- The parameters that open a session. -/
def greeting : Shape :=
  record
    [may "processId" count, may "rootPath" text, ("rootUri", .defaulted, nullable uri),
      may "initializationOptions" any, must "capabilities" client,
      ("trace", .defaulted, nullable (oneOf ["off", "messages", "verbose"])),
      may "workspaceFolders" (list (record [must "uri" uri, must "name" text])),
      may "clientInfo" (record [must "name" text, may "version" text]), may "locale" text]

end Layerfile.Capabilities
