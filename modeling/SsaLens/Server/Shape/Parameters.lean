import SsaLens.Server.Shape.Capabilities

/-! # Parameters of methods

The shapes of what is sent with each method of the protocol.
-/

namespace SsaLens.Shape

/-! ## Places in documents -/

def position : Shape := .record [must "line" unsigned, must "character" unsigned]

def range : Shape := .record [must "start" position, must "end" position]

def location : Shape := .record [must "uri" .url, must "range" range]

def document : Shape := .record [must "uri" .url]

def inDocument : Field := must "textDocument" document

def atPosition : List Field := [inDocument, must "position" position]

def inRange : Field := must "range" range

/-! ## Progress -/

/-- A token is a number or a text. -/
def token : Shape := .either signed .text

def workDone : Field := may "workDoneToken" token

def progress : List Field := [workDone, may "partialResultToken" token]

/-! ## Parts -/

def data : Field := may "data" .anything

def folder : Shape := .record [must "uri" .url, must "name" .text]

def textEdit : Shape := .record [must "range" range, must "newText" .text]

def documentation : Shape :=
  .either .text (.record [must "kind" Capabilities.markup, must "value" .text])

def command : Shape := .record
  [must "title" .text, must "command" .text, may "arguments" (.list .anything)]

def diagnostic : Shape := .record
  [inRange, may "severity" signed, may "code" token,
    may "codeDescription" (.record [must "href" .url]), may "source" .text, must "message" .text,
    may "relatedInformation" (.list (.record [must "location" location, must "message" .text])),
    may "tags" (.list signed), data]

/-- Options of a formatter; it may have others with simple values. -/
def formatting : Shape := .object
  [must "tabSize" unsigned, must "insertSpaces" .bool, may "trimTrailingWhitespace" .bool,
    may "insertFinalNewline" .bool, may "trimFinalNewlines" .bool]
  (.either .bool (.either signed .text))

/-- An item of a hierarchy of calls or types, with its tags. -/
def hierarchyItem (tags : Shape) : Shape := .record
  [must "name" .text, must "kind" signed, may "tags" tags, may "detail" .text, must "uri" .url,
    inRange, must "selectionRange" range, data]

def ofItem (tags : Shape) : Shape := named (must "item" (hierarchyItem tags) :: progress)

def files (names : List String) : Shape :=
  .record [must "files" (.list (.record (names.map fun name => must name .text)))]

/-! ## Changes of a workspace -/

def documentEdit : Shape := .record
  [must "textDocument" (.record [must "uri" .url, may "version" signed]),
    must "edits" (.list textEdit)]

def fileChange : Shape := .tagged "kind"
  [("create", .record
      [must "uri" .url, may "options" (Capabilities.switches ["overwrite", "ignoreIfExists"]),
        may "annotationId" .text]),
    ("rename", .record
      [must "oldUri" .url, must "newUri" .url,
        may "options" (Capabilities.switches ["overwrite", "ignoreIfExists"]),
        may "annotationId" .text]),
    ("delete", .record
      [must "uri" .url,
        may "options" (.record
          [may "recursive" .bool, may "ignoreIfNotExists" .bool, may "annotationId" .text])])]

def workspaceEdit : Shape := .record
  [mayEnd "changes" (.entriesOfUrls (.list textEdit)),
    may "documentChanges"
      (.either (.list documentEdit) (.list (.either fileChange documentEdit))),
    may "changeAnnotations" (.entries (.record
      [must "label" .text, may "needsConfirmation" .bool, may "description" .text]))]

/-! ## Starting -/

def beginning : Shape := .record
  [may "processId" unsigned, may "rootPath" .text, mayEnd "rootUri" .url,
    may "initializationOptions" .anything, must "capabilities" Capabilities.client,
    mayEnd "trace" (.word ["off", "messages", "verbose"]),
    may "workspaceFolders" (.list folder),
    may "clientInfo" (.record [must "name" .text, may "version" .text]), may "locale" .text]

/-! ## Notifications -/

def opened : Shape := .record
  [must "textDocument" (.record
    [must "uri" .url, must "languageId" .text, must "version" signed, must "text" .text])]

def changed : Shape := .record
  [must "textDocument" (.record [must "uri" .url, must "version" signed]),
    must "contentChanges" (.list (.record
      [may "range" range, may "rangeLength" unsigned, must "text" .text]))]

def closed : Shape := .record [inDocument]

def saved : Shape := .record [inDocument, may "text" .text]

/-! ## Requests -/

/-- A request about a position, whose answer comes in one piece. -/
def positionOnly : Shape := named (atPosition ++ [workDone])

/-- A request about a position, whose answer may come in pieces. -/
def positionWithParts : Shape := named (atPosition ++ progress)

/-- A request about a document, whose answer may come in pieces. -/
def documentWith (fields : List Field) : Shape := named (inDocument :: fields ++ progress)

def willSave : Shape := .record [inDocument, must "reason" signed]

def prepareRename : Shape := .record atPosition

def rename : Shape := named (atPosition ++ [must "newName" .text, workDone])

def onTypeFormatting : Shape :=
  named (atPosition ++ [must "ch" .text, must "options" formatting])

def completion : Shape := named (atPosition ++ progress ++
  [may "context" (.record [must "triggerKind" signed, may "triggerCharacter" .text])])

def references : Shape := named (atPosition ++ progress ++
  [must "context" (.record [must "includeDeclaration" .bool])])

def signature : Shape := .record
  [must "label" .text, may "documentation" documentation,
    may "parameters" (.list (.record
      [must "label" (.either .text (.row [unsigned, unsigned])),
        may "documentation" documentation])),
    may "activeParameter" unsigned]

def signatureHelp : Shape := named (atPosition ++
  [workDone, may "context" (.record
    [must "triggerKind" signed, may "triggerCharacter" .text, must "isRetrigger" .bool,
      may "activeSignatureHelp" (.record
        [must "signatures" (.list signature), may "activeSignature" unsigned,
          may "activeParameter" unsigned])])])

def codeAction : Shape := documentWith
  [inRange, must "context" (.record
    [must "diagnostics" (.list diagnostic), may "only" texts, may "triggerKind" signed])]

def colorPresentation : Shape := documentWith
  [inRange, must "color" (.record
    [must "red" .number, must "green" .number, must "blue" .number, must "alpha" .number])]

def inlineValue : Shape := named
  [inDocument, inRange, workDone, must "context" (.record
    [must "frameId" signed, must "stoppedLocation" range])]

def rangeFormatting : Shape := named
  [inDocument, inRange, must "options" formatting, workDone]

def documentFormatting : Shape := named [inDocument, must "options" formatting, workDone]

def hints : Shape := named [inDocument, inRange, workDone]

def executeCommand : Shape := named
  [must "command" .text, ("arguments", .presumed, .list .anything), workDone]

def workspaceDiagnostic : Shape := named
  (may "identifier" .text ::
    must "previousResultIds" (.list (.record [must "uri" .url, must "value" .text])) :: progress)

def workspaceSymbol : Shape := named (must "query" .text :: progress)

/-! ## Items to be completed -/

def codeLensItem : Shape := .record [inRange, may "command" command, data]

def documentLinkItem : Shape := .record
  [inRange, may "target" .url, may "tooltip" .text, data]

def hintItem : Shape := .record
  [must "position" position,
    must "label" (.either .text (.list (.record
      [must "value" .text, may "tooltip" documentation, may "location" location,
        may "command" command]))),
    may "kind" signed, may "textEdits" (.list textEdit), may "tooltip" documentation,
    may "paddingLeft" .bool, may "paddingRight" .bool, data]

def completionItem : Shape := .record
  [must "label" .text,
    may "labelDetails" (.record [may "detail" .text, may "description" .text]),
    may "kind" signed, may "detail" .text, may "documentation" documentation,
    may "deprecated" .bool, may "preselect" .bool, may "sortText" .text, may "filterText" .text,
    may "insertText" .text, may "insertTextFormat" signed, may "insertTextMode" signed,
    may "textEdit" (.either textEdit (.record
      [must "newText" .text, must "insert" range, must "replace" range])),
    may "additionalTextEdits" (.list textEdit), may "command" command,
    may "commitCharacters" texts, data, may "tags" (.list signed)]

def codeActionItem : Shape := .record
  [must "title" .text, may "kind" .text, may "diagnostics" (.list diagnostic),
    may "edit" workspaceEdit, may "command" command, may "isPreferred" .bool,
    may "disabled" (.record [must "reason" .text]), data]

def symbolItem : Shape := .record
  [must "name" .text, must "kind" signed, may "tags" (.list signed), may "containerName" .text,
    must "location" (.either location document), data]

/-! ## Requests by name -/

/-- The requests of the protocol that the server does not answer. -/
def unanswered : List (String × Shape) :=
  [("textDocument/hover", positionOnly),
    ("textDocument/completion", completion),
    ("textDocument/signatureHelp", signatureHelp),
    ("textDocument/declaration", positionWithParts),
    ("textDocument/definition", positionWithParts),
    ("textDocument/typeDefinition", positionWithParts),
    ("textDocument/implementation", positionWithParts),
    ("textDocument/references", references),
    ("textDocument/documentHighlight", positionWithParts),
    ("textDocument/prepareCallHierarchy", positionOnly),
    ("textDocument/prepareTypeHierarchy", positionOnly),
    ("textDocument/moniker", positionWithParts),
    ("textDocument/prepareRename", prepareRename),
    ("textDocument/rename", rename),
    ("textDocument/onTypeFormatting", onTypeFormatting),
    ("textDocument/linkedEditingRange", positionOnly),
    ("textDocument/documentLink", documentWith []),
    ("textDocument/foldingRange", documentWith []),
    ("textDocument/selectionRange", documentWith [must "positions" (.list position)]),
    ("textDocument/documentSymbol", documentWith []),
    ("textDocument/semanticTokens/full", documentWith []),
    ("textDocument/semanticTokens/full/delta", documentWith [must "previousResultId" .text]),
    ("textDocument/semanticTokens/range", documentWith [inRange]),
    ("textDocument/diagnostic",
      documentWith [may "identifier" .text, may "previousResultId" .text]),
    ("textDocument/documentColor", documentWith []),
    ("textDocument/formatting", documentFormatting),
    ("textDocument/willSaveWaitUntil", willSave),
    ("textDocument/inlineValue", inlineValue),
    ("textDocument/codeAction", codeAction),
    ("textDocument/colorPresentation", colorPresentation),
    ("textDocument/rangeFormatting", rangeFormatting),
    ("callHierarchy/incomingCalls", ofItem (.list signed)),
    ("callHierarchy/outgoingCalls", ofItem (.list signed)),
    ("typeHierarchy/supertypes", ofItem signed),
    ("typeHierarchy/subtypes", ofItem signed),
    ("documentLink/resolve", documentLinkItem),
    ("codeLens/resolve", codeLensItem),
    ("inlayHint/resolve", hintItem),
    ("completionItem/resolve", completionItem),
    ("codeAction/resolve", codeActionItem),
    ("workspace/diagnostic", workspaceDiagnostic),
    ("workspace/symbol", workspaceSymbol),
    ("workspaceSymbol/resolve", symbolItem),
    ("workspace/willCreateFiles", files ["uri"]),
    ("workspace/willRenameFiles", files ["oldUri", "newUri"]),
    ("workspace/willDeleteFiles", files ["uri"])]

end SsaLens.Shape
