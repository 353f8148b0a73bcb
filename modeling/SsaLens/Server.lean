import SsaLens.Annotations
import SsaLens.Documents
import SsaLens.Hint
import SsaLens.Server.Push
import SsaLens.Session
import SsaLens.Settings
import SsaLens.Url

/-! # The server

The state of a language server for one client, and what each message does to it. A message is
finished before the next one begins, and the server ends with one that cannot be finished. Builds see
the machine as it is while their message is handled; a view keeps the toolchain that it was opened with.
-/

namespace SsaLens

/-- A view that the client shows, with what rebuilds it. -/
structure OpenView where
  session : Session
  toolchain : Toolchain
  view : View
  deriving DecidableEq

/-- The state of the server. The permits of the build limiter are gone when it is asked for more
than it can hold. -/
structure Server where
  root : Option Path
  documents : Documents
  views : SortedMap String OpenView
  annotations : Annotations
  settings : Settings
  permits : Option Nat
  deriving DecidableEq

/-- What a server sees while it handles a message: the machine, the compiler that its environment
names, and the client's answer when it is asked for its settings. -/
structure Surroundings where
  machine : Machine
  compilerName : Option String
  configuration : Option Json

/-- What a client asks for, in words of this program. -/
inductive Message where
  | begun (root : Option Path)
  | ready
  | settingsChanged
  | opened (url : Url) (version : Int) (text : String)
  | changed (url : Url) (version : Int) (texts : List String)
  | closed (url : Url)
  | saved (url : Url)
  | selected (url : Url) (line : UInt32)
  | codeLens (url : Url)
  | hints (url : Url) (range : LineRange)
  | showListing (function : String)
  | toggleAnnotations (url : Option Url)
  | nothing
  | shutdown
  deriving DecidableEq

/-- A build with the toolchain that made it. -/
structure Made where
  toolchain : Toolchain
  build : Build
  outcome : Outcome
  deriving DecidableEq

/-- What handling a message brings: an answer, messages to the client, and builds. It is not
finished when it takes a permit of a build limiter that is gone, or when the limiter is lost by it;
then the server has failed. -/
structure Effect where
  reply : Json := .null
  pushes : List Push := []
  builds : List Made := []
  finished : Bool := true

namespace OpenView

/-- Rebuild a view after its file was saved. The highlighted line stays. -/
def rebuild (held : OpenView) (machine : Machine) (fileName : String) : Traced (Option OpenView) := do
  match ← held.session.refresh (held.toolchain.compiler machine) with
  | .error _ => pure none
  | .ok snapshot =>
      let event := snapshot.event fileName held.view.highlight
      pure (if held.view.concerns event then some { held with view := held.view.apply event } else none)

end OpenView

namespace Server

def initial : Server := ⟨none, ∅, ∅, ∅, .initial, some 2⟩

/-- The most permits that the build limiter can hold. -/
def permitLimit : Nat := Nat.pow 2 61 - 1

/-- The permits of a new limiter. -/
def permitsFor (settings : Settings) : Option Nat :=
  let permits := max 1 settings.maxConcurrent
  if permits ≤ permitLimit then some permits else none

def toolchain (server : Server) (around : Surroundings) : Toolchain :=
  server.settings.toolchain around.compilerName

/-- The workspace name of a document. -/
def fileName? (server : Server) (url : Url) : Option String := do url.fileName? (← server.root)

def made (toolchain : Toolchain) (builds : List (Build × Outcome)) : List Made :=
  builds.map fun (build, outcome) => ⟨toolchain, build, outcome⟩

/-- Take over the settings that the client answers. An answer that cannot be read changes
nothing, and a limiter that is gone does not come back. -/
def configure (server : Server) (answer : Option Json) : Server :=
  match answer.bind Configuration.ofJson? with
  | none => server
  | some configuration =>
      let settings := server.settings.merge configuration
      { server with settings, permits := server.permits.bind fun _ => permitsFor settings }

/-- A limiter that was there before is there afterwards. -/
def keepsLimiter (before after : Server) : Bool := before.permits.isNone || after.permits.isSome

/-- Show the listing of a function. -/
def showListing (server : Server) (around : Surroundings) (name : String) : Server × Effect :=
  let function := Text.trimmed name
  if function = "" then (server, {})
  else match server.root, server.permits with
    | none, _ => (server, { pushes := [.failure ExplorerError.noWorkspace.message] })
    | some _, none => (server, { finished := false })
    | some root, some _ =>
        let toolchain := server.toolchain around
        let started := Session.start (toolchain.compiler around.machine) root.shown function
        let builds := made toolchain started.builds
        match started.value with
        | .error error => (server, { pushes := [.failure error.message], builds })
        | .ok (session, view) =>
            ({ server with views := server.views.insert function ⟨session, toolchain, view⟩ },
              { pushes := [.listing view.listing], builds })

/-- Switch the annotations of a file. -/
def toggleFile (server : Server) (around : Surroundings) (root : Path) (fileName : String) :
    Server × Effect :=
  match server.annotations.enter fileName with
  | (annotations, .hidden) => ({ server with annotations }, { pushes := [.hintsChanged] })
  | (annotations, .shown) =>
      let toolchain := server.toolchain around
      let loaded := (toolchain.compiler around.machine).loadReport root.shown fileName
      ({ server with annotations := annotations.deliver fileName loaded.value },
        { pushes := [.hintsChanged], builds := made toolchain loaded.builds })

/-- Switch the annotations of a document; one outside the workspace has none. -/
def toggle (server : Server) (around : Surroundings) : Option Url → Server × Effect
  | none => (server, { pushes := [.failure "No Go file to toggle inlining decisions for"] })
  | some url =>
      match server.root with
      | none => (server, { pushes := [.failure ExplorerError.noWorkspace.message] })
      | some root =>
          match url.fileName? root, server.permits with
          | none, _ => (server, {})
          | some _, none => (server, { finished := false })
          | some fileName, some _ => server.toggleFile around root fileName

/-- Move the marker of every view of a file. -/
def select (server : Server) (url : Url) (line : UInt32) : Server × Effect :=
  match server.fileName? url with
  | none => (server, {})
  | some fileName =>
      let number := line + 1
      let event := ViewEvent.highlight number fileName
      let views := server.views.mapValues fun _ held => { held with view := held.view.apply event }
      ({ server with views },
        { pushes := (views.entries.filter fun (_, held) => held.view.concerns event).map
            fun (_, held) => .mark (held.view.mark number) })

/-- Rebuild the views whose sessions remember a file. -/
def rebuildViews (server : Server) (machine : Machine) (fileName : String) : Server × Effect :=
  let rebuilt (held : OpenView) : Traced (Option OpenView) :=
    if held.session.fileName = fileName then held.rebuild machine fileName else pure none
  ({ server with views := server.views.mapValues fun _ held => (rebuilt held).value.getD held },
    { pushes := server.views.entries.filterMap fun (_, held) =>
        (rebuilt held).value.map fun after => .listing after.view.listing
      builds := server.views.entries.flatMap fun (_, held) =>
        made held.toolchain (rebuilt held).builds })

/-- Renew the annotations of a file that is switched on. -/
def renewAnnotations (server : Server) (around : Surroundings) (root : Path) (fileName : String) :
    Server × Effect :=
  if server.annotations.isShown fileName then
    let toolchain := server.toolchain around
    let loaded := (toolchain.compiler around.machine).loadReport root.shown fileName
    ({ server with annotations := server.annotations.refresh fileName loaded.value },
      { pushes := [.hintsChanged], builds := made toolchain loaded.builds })
  else (server, {})

/-- Renew what is shown of a Go file that was saved. -/
def save (server : Server) (around : Surroundings) (url : Url) : Server × Effect :=
  if url.isGo then
    match server.root with
    | none => (server, {})
    | some root =>
        match url.fileName? root, server.permits with
        | none, _ => (server, {})
        | some _, none => (server, { finished := false })
        | some fileName, some _ =>
            let (rebuilt, first) := server.rebuildViews around.machine fileName
            let (renewed, second) := rebuilt.renewAnnotations around root fileName
            (renewed, { pushes := first.pushes ++ second.pushes
                        builds := first.builds ++ second.builds })
  else (server, {})

open Json

/-- What the server can do, for its client. -/
def capabilities : Json :=
  obj [("capabilities", obj [
      ("textDocumentSync", obj [("openClose", bool true), ("change", ofNat 1),
        ("save", obj [("includeText", bool false)])]),
      ("codeLensProvider", obj [("resolveProvider", bool false)]),
      ("inlayHintProvider", obj [("resolveProvider", bool false)]),
      ("executeCommandProvider", obj [("commands",
        ofStrings ["goSsaExplorer.showSSA", "goSsaExplorer.toggleInliningDecisions"])])]),
    ("serverInfo", obj [("name", str "Go SSA Explorer"), ("version", str "0.1.0")])]

/-- A Go file has one lens, above its first line, that switches its annotations. -/
def lenses (url : Url) : Json :=
  let origin := obj [("line", ofNat 0), ("character", ofNat 0)]
  if url.isGo then
    arr [obj [("range", obj [("start", origin), ("end", origin)]),
      ("command", obj [("title", str "Toggle Inlining Decisions"),
        ("command", str "goSsaExplorer.toggleInliningDecisions"),
        ("arguments", ofStrings [url.text])])]]
  else null

/-- The hints of a document that is held and whose annotations are on. -/
def hints (server : Server) (url : Url) (range : LineRange) : List Hint :=
  if server.settings.hintsEnabled then
    match (server.fileName? url).bind server.annotations.report?, server.documents.get? url.text with
    | some report, some document => Hint.ofReport document.text report range
    | _, _ => []
  else []

/-- No hints are answered with null. -/
def hintsReply (hints : List Hint) : Json :=
  if hints = [] then null else arr (hints.map Hint.toJson)

/-- Handle a message. -/
def handle (server : Server) (around : Surroundings) : Message → Server × Effect
  | .begun root => ({ server with root }, { reply := capabilities })
  | .ready =>
      let configured := server.configure around.configuration
      (configured, { pushes := [.note "Go SSA Explorer started", .askSettings]
                     finished := server.keepsLimiter configured })
  | .settingsChanged =>
      let configured := server.configure around.configuration
      (configured, { pushes := [.askSettings], finished := server.keepsLimiter configured })
  | .opened url version text =>
      ({ server with documents := server.documents.openWith url.text version text }, {})
  | .changed url version texts =>
      ({ server with documents := server.documents.change url.text version texts }, {})
  | .closed url => ({ server with documents := server.documents.close url.text }, {})
  | .saved url => server.save around url
  | .selected url line => server.select url line
  | .codeLens url => (server, { reply := lenses url })
  | .hints url range => (server, { reply := hintsReply (server.hints url range) })
  | .showListing name => server.showListing around name
  | .toggleAnnotations url => server.toggle around url
  | .nothing | .shutdown => (server, {})

/-- Handle messages one after the other, each in its own surroundings. The server ends with the first
one that is not finished, and what comes later is not handled. -/
def run (server : Server) : List (Surroundings × Message) → Server
  | [] => server
  | (around, message) :: rest =>
      let step := server.handle around message
      if step.2.finished then step.1.run rest else step.1

end Server

end SsaLens
