import SsaLens.Server.Shape

/-! # Capabilities of clients

What a client says about itself when it initializes the server. Nothing of it is used, but all of it
has to be well formed.
-/

namespace SsaLens.Shape.Capabilities

/-- A group of switches, each of which may be missing. -/
def switches (names : List String) : Shape := .record (names.map fun name => may name .bool)

/-- A feature that can be registered later. -/
def registered (fields : List Field) : Shape := .record (may "dynamicRegistration" .bool :: fields)

def registration : Shape := registered []

def refreshing : Shape := switches ["refreshSupport"]

/-- Values of a set that is numbered. -/
def numbered (need : String → Shape → Field) : Shape := .record [need "valueSet" (.list signed)]

/-- Tags that a client knows; older clients send a switch. -/
def tags : Field := mayEnd "tagSupport" (.either .bool (numbered must))

def properties : Shape := .record [must "properties" texts]

def markup : Shape := .word ["plaintext", "markdown"]

/-! ## Workspace -/

def workspaceEdit : Shape := .record
  [may "documentChanges" .bool,
    may "resourceOperations" (.list (.word ["create", "rename", "delete"])),
    may "failureHandling" (.word ["abort", "transactional", "textOnlyTransactional", "undo"]),
    may "normalizesLineEndings" .bool,
    may "changeAnnotationSupport" (switches ["groupsOnLabel"])]

def workspaceSymbol : Shape := registered
  [may "symbolKind" (numbered may), tags, may "resolveSupport" properties]

def fileOperations : Shape := switches
  ["dynamicRegistration", "didCreate", "willCreate", "didRename", "willRename", "didDelete",
    "willDelete"]

def workspace : Shape := .record
  [may "applyEdit" .bool, may "workspaceEdit" workspaceEdit,
    may "didChangeConfiguration" registration,
    may "didChangeWatchedFiles" (switches ["dynamicRegistration", "relativePatternSupport"]),
    may "symbol" workspaceSymbol, may "executeCommand" registration,
    may "workspaceFolders" .bool, may "configuration" .bool, may "semanticTokens" refreshing,
    may "codeLens" refreshing, may "fileOperations" fileOperations, may "inlineValue" refreshing,
    may "inlayHint" refreshing, may "diagnostic" refreshing]

/-! ## Text documents -/

def completionItem : Shape := .record
  [may "snippetSupport" .bool, may "commitCharactersSupport" .bool,
    may "documentationFormat" (.list markup), may "deprecatedSupport" .bool,
    may "preselectSupport" .bool, tags, may "insertReplaceSupport" .bool,
    may "resolveSupport" properties, may "insertTextModeSupport" (numbered must),
    may "labelDetailsSupport" .bool]

def completion : Shape := registered
  [may "completionItem" completionItem, may "completionItemKind" (numbered may),
    may "contextSupport" .bool, may "insertTextMode" signed,
    may "completionList" (.record [may "itemDefaults" texts])]

def signatureHelp : Shape := registered
  [may "signatureInformation" (.record
      [may "documentationFormat" (.list markup),
        may "parameterInformation" (switches ["labelOffsetSupport"]),
        may "activeParameterSupport" .bool]),
    may "contextSupport" .bool]

def documentSymbol : Shape := registered
  [may "symbolKind" (numbered may), may "hierarchicalDocumentSymbolSupport" .bool, tags]

def goto : Shape := switches ["dynamicRegistration", "linkSupport"]

def codeAction : Shape := registered
  [may "codeActionLiteralSupport"
      (.record [must "codeActionKind" (.record [must "valueSet" texts])]),
    may "isPreferredSupport" .bool, may "disabledSupport" .bool, may "dataSupport" .bool,
    may "resolveSupport" properties, may "honorsChangeAnnotations" .bool]

def rename : Shape := registered
  [may "prepareSupport" .bool, may "prepareSupportDefaultBehavior" signed,
    may "honorsChangeAnnotations" .bool]

def publishDiagnostics : Shape := .record
  [may "relatedInformation" .bool, tags, may "versionSupport" .bool,
    may "codeDescriptionSupport" .bool, may "dataSupport" .bool]

def foldingRange : Shape := registered
  [may "rangeLimit" unsigned, may "lineFoldingOnly" .bool,
    may "foldingRangeKind"
      (.record [may "valueSet" (.list (.word ["comment", "imports", "region"]))]),
    may "foldingRange" (switches ["collapsedText"])]

def semanticTokens : Shape := registered
  [must "requests" (.record
      [may "range" .bool, may "full" (.either .bool (switches ["delta"]))]),
    must "tokenTypes" texts, must "tokenModifiers" texts, must "formats" texts,
    may "overlappingTokenSupport" .bool, may "multilineTokenSupport" .bool,
    may "serverCancelSupport" .bool, may "augmentsSyntaxTokens" .bool]

def textDocument : Shape := .record
  [may "synchronization"
      (switches ["dynamicRegistration", "willSave", "willSaveWaitUntil", "didSave"]),
    may "completion" completion, may "hover" (registered [may "contentFormat" (.list markup)]),
    may "signatureHelp" signatureHelp, may "references" registration,
    may "documentHighlight" registration, may "documentSymbol" documentSymbol,
    may "formatting" registration, may "rangeFormatting" registration,
    may "onTypeFormatting" registration, may "declaration" goto, may "definition" goto,
    may "typeDefinition" goto, may "implementation" goto, may "codeAction" codeAction,
    may "codeLens" registration,
    may "documentLink" (switches ["dynamicRegistration", "tooltipSupport"]),
    may "colorProvider" registration, may "rename" rename,
    may "publishDiagnostics" publishDiagnostics, may "foldingRange" foldingRange,
    may "selectionRange" registration, may "linkedEditingRange" registration,
    may "callHierarchy" registration, may "semanticTokens" semanticTokens,
    may "moniker" registration, may "typeHierarchy" registration,
    may "inlineValue" registration,
    may "inlayHint" (registered [may "resolveSupport" properties]),
    may "diagnostic" (switches ["dynamicRegistration", "relatedDocumentSupport"])]

/-! ## Everything else -/

def window : Shape := .record
  [may "workDoneProgress" .bool,
    may "showMessage"
      (.record [may "messageActionItem" (switches ["additionalPropertiesSupport"])]),
    may "showDocument" (.record [must "support" .bool])]

def general : Shape := .record
  [may "regularExpressions" (.record [must "engine" .text, may "version" .text]),
    may "markdown"
      (.record [must "parser" .text, may "version" .text, may "allowedTags" texts]),
    may "staleRequestSupport"
      (.record [must "cancel" .bool, must "retryOnContentModified" texts]),
    may "positionEncodings" texts]

def client : Shape := .record
  [may "workspace" workspace, may "textDocument" textDocument, may "window" window,
    may "general" general, may "experimental" .anything]

end SsaLens.Shape.Capabilities
