import SsaLens.Json.Decode
import SsaLens.Server
import SsaLens.Server.Shape.Parameters

/-! # Methods

The methods of the protocol, with the parameters that each of them takes and the message that they
make.
-/

namespace SsaLens

/-- What a method is called for. Some known methods do nothing here. -/
inductive Call where
  | message (message : Message)
  | unsupported
  deriving DecidableEq

/-- A method is a request, which is answered, or a notification, which is not. -/
structure Method where
  isRequest : Bool
  read? : Option Json → Option Call

/-- The value, if it has a shape. -/
def Json.shaped? (json : Json) (shape : Shape) : Option Json :=
  if shape.fits json then some json else none

namespace Method

open Json

def url? (json : Json) : Option Url := do Url.parse? (← json.asString?)

/-- A number of 32 bits with a sign. -/
def version? : Json → Option Int := asInt? (-2147483648) 2147483647

/-- The URL of a document that is given by itself. -/
def document? (json : Json) : Option Url := do
  match ← json.fields? ["uri"] with
  | [url] => url? (← url)
  | _ => none

/-- The line and column of a position. -/
def position? (json : Json) : Option (UInt32 × UInt32) := do
  match ← json.fields? ["line", "character"] with
  | [line, character] => pure ((← (← line).asLine?), (← (← character).asLine?))
  | _ => none

/-- The lines of a range of positions. -/
def range? (json : Json) : Option LineRange := do
  match ← json.fields? ["start", "end"] with
  | [first, last] => pure ⟨(← position? (← first)).1, (← position? (← last)).1⟩
  | _ => none

/-! ## Notifications -/

def opened? (json : Json) : Option Message := do
  match ← (← json.shaped? Shape.opened).fields? ["textDocument"] with
  | [item] =>
      match ← (← item).fields? ["uri", "languageId", "version", "text"] with
      | [url, _, version, text] =>
          pure (.opened (← url? (← url)) (← version? (← version)) (← (← text).asString?))
      | _ => none
  | _ => none

/-- The text of a change; a range beside it is passed over. -/
def changedText? (json : Json) : Option String := do
  match ← json.fields? ["range", "rangeLength", "text"] with
  | [_, _, text] => (← text).asString?
  | _ => none

def changed? (json : Json) : Option Message := do
  match ← (← json.shaped? Shape.changed).fields? ["textDocument", "contentChanges"] with
  | [document, changes] =>
      match ← (← document).fields? ["uri", "version"] with
      | [url, version] =>
          pure (.changed (← url? (← url)) (← version? (← version))
            (← (← changes).asList? changedText?))
      | _ => none
  | _ => none

def closed? (json : Json) : Option Message := do
  match ← (← json.shaped? Shape.closed).fields? ["textDocument"] with
  | [document] => pure (.closed (← document? (← document)))
  | _ => none

def saved? (json : Json) : Option Message := do
  match ← (← json.shaped? Shape.saved).fields? ["textDocument", "text"] with
  | [document, _] => pure (.saved (← document? (← document)))
  | _ => none

def settingsChanged? (json : Json) : Option Message := do
  let _ ← json.shaped? (.record [Shape.must "settings" .anything])
  pure .settingsChanged

def selected? (json : Json) : Option Message := do
  match ← json.fields? ["uri", "line"] with
  | [url, line] => pure (.selected (← url? (← url)) (← (← line).asLine?))
  | _ => none

def ready? (json : Json) : Option Message := do
  let _ ← json.fields? []
  pure .ready

/-! ## Requests -/

def folder? (json : Json) : Option Url := do
  match ← json.fields? ["uri", "name"] with
  | [url, _] => url? (← url)
  | _ => none

/-- The workspace root that a client announces: the first folder if it names a file, or else the
root of older clients. -/
def root? (json : Json) : Option (Option Path) := do
  match ← (← json.shaped? Shape.beginning).fields? ["processId", "rootPath", "rootUri",
      "initializationOptions", "capabilities", "trace", "workspaceFolders", "clientInfo",
      "locale"] with
  | [_, _, root, _, _, _, folders, _, _] =>
      let root ← optional? url? root
      let folders ← optional? (asList? folder?) folders
      pure ((folders.bind (·.head?)).bind Url.file? <|> root.bind Url.file?)
  | _ => none

def codeLens? (json : Json) : Option Message := do
  match ← (← json.shaped? (Shape.documentWith [])).objectFields? ["textDocument"] with
  | [document] => pure (.codeLens (← document? (← document)))
  | _ => none

def hints? (json : Json) : Option Message := do
  match ← (← json.shaped? Shape.hints).objectFields? ["textDocument", "range"] with
  | [document, range] => pure (.hints (← document? (← document)) (← range? (← range)))
  | _ => none

/-- The message of a command with its first argument, if that is a text. A listing that is asked
for without a name was dismissed. -/
def command (name : String) (argument : Option String) : Message :=
  if name = "goSsaExplorer.showSSA" then
    match argument with
    | some function => .showListing function
    | none => .nothing
  else if name = "goSsaExplorer.toggleInliningDecisions" then
    .toggleAnnotations (argument.bind Url.parse?)
  else .nothing

def command? (json : Json) : Option Message := do
  match ← (← json.shaped? Shape.executeCommand).objectFields? ["command", "arguments"] with
  | [name, arguments] =>
      let values ← default? [] (asList? some) arguments
      pure (command (← (← name).asString?) (values.head?.bind asString?))
  | _ => none

/-- The notifications of the protocol that change nothing here. -/
def ignored : List String :=
  ["textDocument/willSave", "workspace/didChangeWorkspaceFolders", "workspace/didCreateFiles",
    "workspace/didRenameFiles", "workspace/didDeleteFiles", "workspace/didChangeWatchedFiles",
    "$/cancelRequest"]

/-! ## The methods by name -/

def notification (read : Json → Option Message) : Method :=
  ⟨false, fun params => (params.bind read).map .message⟩

def request (read : Json → Option Message) : Method :=
  ⟨true, fun params => (params.bind read).map .message⟩

/-- A request without an answer here, whose parameters are looked at all the same. -/
def unanswered (shape : Shape) : Method :=
  ⟨true, fun params => (params.bind (·.shaped? shape)).map fun _ => .unsupported⟩

/-- A notification without an effect. -/
def silent : Method := ⟨false, fun _ => some .unsupported⟩

/-- The method of a name. -/
def find? (name : String) : Option Method :=
  match name with
  | "initialize" => some (request fun params => (root? params).map .begun)
  | "initialized" => some (notification ready?)
  | "shutdown" =>
      some ⟨true, fun params => if params.isNone then some (.message .shutdown) else none⟩
  | "textDocument/didOpen" => some (notification opened?)
  | "textDocument/didChange" => some (notification changed?)
  | "textDocument/didClose" => some (notification closed?)
  | "textDocument/didSave" => some (notification saved?)
  | "workspace/didChangeConfiguration" => some (notification settingsChanged?)
  | "goSsaExplorer/selectionChanged" => some (notification selected?)
  | "textDocument/codeLens" => some (request codeLens?)
  | "textDocument/inlayHint" => some (request hints?)
  | "workspace/executeCommand" => some (request command?)
  | _ =>
      match Shape.unanswered.lookup name with
      | some shape => some (unanswered shape)
      | none => if name ∈ ignored then some silent else none

end Method

end SsaLens
