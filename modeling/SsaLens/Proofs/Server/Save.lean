import SsaLens.Proofs.Server.Replica
import SsaLens.Proofs.Server.Run
import SsaLens.Proofs.Annotations.Slot
import SsaLens.Proofs.Session.Restart
import SsaLens.Proofs.Text.Span

/-! # What a save changes

A save looks for the views whose sessions remember the file, and what it brings is only shown by the
views of the file. These are the same views, because no message makes a session and its view differ.
What else a view shows, and all views of other files, stay as they are.
-/

namespace SsaLens

/-- The URL of a file of this host. -/
def Url.ofPath (path : String) : Url := ⟨"file", some ("", "", ""), path, none, none⟩

namespace OpenView

/-- A view is in order under a name: the trimmed name of its function, which its session rebuilds for
the file of the view. Its rows are those of its dump and its report. -/
structure InOrder (held : OpenView) (function : String) : Prop where
  named : held.view.function = function
  trimmed : Text.trimmed function = function
  ne_empty : function ≠ ""
  session_function : held.session.function = held.view.function
  session_fileName : held.session.fileName = held.view.fileName
  rows : held.view.rows = Row.annotate held.view.dump held.view.report

/-- The view after a save of a file: if it is of that file and its function is found, it has the new
dump and report. -/
def resaved (held : OpenView) (machine : Machine) (fileName : String) : OpenView :=
  let compiler := held.toolchain.compiler machine
  if held.view.fileName = fileName then
    match (compiler.loadDump held.session.directory held.view.function).value with
    | .error _ => held
    | .ok dump =>
        let report := (compiler.loadReport held.session.directory fileName).value
        { held with view :=
            { held.view with dump := dump.rows, report, rows := Row.annotate dump.rows report } }
  else held

variable {held : OpenView} {function : String}

/-- An event that a view follows leaves it in order, as it keeps its names and annotates its rows anew. -/
theorem InOrder.follow (h : held.InOrder function) (event : ViewEvent) :
    (held.follow event).InOrder function := by
  obtain ⟨hfunction, hfile⟩ := held.view.names_apply event
  refine ⟨hfunction.trans h.named, h.trimmed, h.ne_empty, h.session_function.trans hfunction.symm,
    h.session_fileName.trans hfile.symm, ?_⟩
  rw [OpenView.follow, View.apply.eq_def]
  split
  · cases event with
    | highlight => exact h.rows
    | replace => rfl
  · exact h.rows

/-- A view stays in order when its file is saved. -/
theorem InOrder.resaved (h : held.InOrder function) (machine : Machine) (fileName : String) :
    (held.resaved machine fileName).InOrder function := by
  unfold OpenView.resaved
  dsimp only
  split
  · split
    · exact h
    · exact ⟨h.named, h.trimmed, h.ne_empty, h.session_function, h.session_fileName, rfl⟩
  · exact h

/-- A new view is in order under the trimmed name it was asked for. -/
theorem inOrder_of_start {compiler : Compiler} {directory name : String} {session : Session}
    {view : View} (toolchain : Toolchain) (hname : Text.trimmed name ≠ "")
    (h : (Session.start compiler directory (Text.trimmed name)).value = .ok (session, view)) :
    InOrder ⟨session, toolchain, view⟩ (Text.trimmed name) := by
  obtain ⟨dump, -, rfl, rfl⟩ := Session.start_eq_ok_iff.mp h
  exact ⟨rfl, Text.trimmed_trimmed name, hname, rfl, rfl, rfl⟩

/-- A view in order is rebuilt exactly if it is one of the file that was saved, and shows what its
session builds. -/
theorem getD_rebuilt? (h : held.InOrder function) (machine : Machine) (fileName : String) :
    (held.rebuilt? machine fileName).getD held = held.resaved machine fileName := by
  unfold rebuilt? resaved
  -- the session is found by the file it remembers, and the event is followed by the file of the view
  rw [h.session_fileName]
  dsimp only
  by_cases hfile : held.view.fileName = fileName
  · rw [if_pos hfile, if_pos hfile, rebuild, Traced.value_bind]
    rw [← h.session_function]
    cases hdump : ((held.toolchain.compiler machine).loadDump held.session.directory
        held.session.function).value with
    | error error =>
        rw [Session.refresh_eq_error_iff.mpr hdump]
        rfl
    | ok dump =>
        have hrefresh : (held.session.refresh (held.toolchain.compiler machine)).value =
            .ok ⟨dump, ((held.toolchain.compiler machine).loadReport held.session.directory
              fileName).value⟩ :=
          Session.refresh_eq_ok_iff.mpr ⟨hdump, by rw [h.session_fileName, hfile]⟩
        rw [hrefresh]
        simp [Snapshot.event, View.concerns, ViewEvent.fileName, View.apply, hfile, h.session_function]
  · rw [if_neg hfile, if_neg hfile]
    rfl

end OpenView

namespace Server

/-- Every view is in order under its name. -/
def InOrder (server : Server) : Prop :=
  ∀ function held, server.views.get? function = some held → held.InOrder function

/-- The view that is opened to show a listing. -/
def opened? (server : Server) (around : Surroundings) (name : String) : Option OpenView :=
  let toolchain := server.toolchain around
  if Text.trimmed name = "" then none
  else match server.root, server.permits with
    | some root, some _ =>
        match (Session.start (toolchain.compiler around.machine) root.shown
            (Text.trimmed name)).value with
        | .ok (session, view) => some ⟨session, toolchain, view⟩
        | .error _ => none
    | _, _ => none

/-- The report of a file as it is built while a message is handled. -/
def loaded (server : Server) (around : Surroundings) (root : Path) (fileName : String) : Report :=
  (((server.toolchain around).compiler around.machine).loadReport root.shown fileName).value

/-- What a save of a file may do to a server. All builds see the same machine. -/
structure Saves (server : Server) (around : Surroundings) (fileName : String)
    (step : Server × Effect) : Prop where
  root : step.1.root = server.root
  documents : step.1.documents = server.documents
  settings : step.1.settings = server.settings
  permits : step.1.permits = server.permits
  isShown : ∀ other, step.1.annotations.isShown other = server.annotations.isShown other
  annotations : ∀ other, other ≠ fileName →
    step.1.annotations.get? other = server.annotations.get? other
  renewed : step.2.finished = true → server.annotations.isShown fileName = true →
    ∃ root, server.root = some root ∧
      step.1.annotations.report? fileName = some (server.loaded around root fileName)
  views : step.2.finished = true →
    step.1.views = server.views.mapValues fun _ held => held.resaved around.machine fileName
  unfinished : step.2.finished = false → step.1 = server

variable {server after : Server} {around : Surroundings} {fileName : String} {url : Url}

theorem InOrder.of_views_eq (h : server.InOrder) (hviews : after.views = server.views) :
    after.InOrder := by
  intro function held hheld
  exact h function held (hviews ▸ hheld)

/-- A server stays in order where its views change one by one and stay so. -/
theorem InOrder.of_mapValues (h : server.InOrder) {next : OpenView → OpenView}
    (hviews : after.views = server.views.mapValues fun _ held => next held)
    (hnext : ∀ function held, held.InOrder function → (next held).InOrder function) :
    after.InOrder := by
  intro function held hheld
  rw [hviews, SortedMap.get?_mapValues] at hheld
  obtain ⟨old, hold, rfl⟩ := Option.map_eq_some_iff.mp hheld
  exact hnext function old (h function old hold)

/-- Showing a listing opens one view and pushes its listing, or does nothing. -/
theorem showListing_spec (server : Server) (around : Surroundings) (name : String) :
    let step := server.showListing around name
    match server.opened? around name with
    | none => step.1 = server ∧ ∀ listing, .listing listing ∉ step.2.pushes
    | some held =>
        step.1 = { server with views := server.views.insert (Text.trimmed name) held } ∧
          step.2.pushes = [.listing held.view.listing] := by
  intro step
  unfold step showListing opened?
  rcases eq_or_ne (Text.trimmed name) "" with hname | hname
  · simp [hname]
  simp only [hname, if_false]
  cases server.root with
  | none => simp
  | some root =>
      cases server.permits with
      | none => simp
      | some permits =>
          dsimp only
          cases (Session.start ((server.toolchain around).compiler around.machine) root.shown
            (Text.trimmed name)).value <;> simp

/-- A view that a name opens is in order under the trimmed name. -/
theorem opened?_inOrder {name : String} {held : OpenView}
    (h : server.opened? around name = some held) : held.InOrder (Text.trimmed name) := by
  unfold opened? at h
  dsimp only at h
  split at h
  · exact absurd h (Option.some_ne_none held).symm
  next hname =>
    split at h
    · split at h
      next session view hstart =>
        exact Option.some.inj h ▸ OpenView.inOrder_of_start (server.toolchain around) hname hstart
      next => exact absurd h (Option.some_ne_none held).symm
    · exact absurd h (Option.some_ne_none held).symm

/-- A save changes each view on its own, to what its session builds. -/
theorem views_rebuildViews (h : server.InOrder) (machine : Machine) (fileName : String) :
    (server.rebuildViews machine fileName).1.views =
      server.views.mapValues fun _ held => held.resaved machine fileName := by
  have hrebuilt : (server.rebuildViews machine fileName).1.views =
      server.views.mapValues fun _ held => (held.rebuilt? machine fileName).getD held := rfl
  refine SortedMap.ext_get? fun function => ?_
  rw [hrebuilt, SortedMap.get?_mapValues, SortedMap.get?_mapValues]
  exact Option.map_congr fun held hheld =>
    OpenView.getD_rebuilt? (h function held hheld) machine fileName

theorem InOrder.rebuildViews (h : server.InOrder) (machine : Machine) (fileName : String) :
    (server.rebuildViews machine fileName).1.InOrder :=
  h.of_mapValues (views_rebuildViews h machine fileName) fun _ _ hheld =>
    hheld.resaved machine fileName

theorem InOrder.showListing (h : server.InOrder) (around : Surroundings) (name : String) :
    (server.showListing around name).1.InOrder := by
  have hspec := server.showListing_spec around name
  cases hopened : server.opened? around name with
  | none =>
      simp only [hopened] at hspec
      rwa [hspec.1]
  | some held =>
      simp only [hopened] at hspec
      intro function other hother
      rw [hspec.1, SortedMap.get?_insert] at hother
      split at hother
      next heq =>
        obtain rfl := Option.some.inj hother
        exact heq ▸ opened?_inOrder hopened
      next => exact h function other hother

theorem InOrder.select (h : server.InOrder) (url : Url) (line : UInt32) :
    (server.select url line).1.InOrder := by
  unfold Server.select
  split
  · exact h
  next fileName _ =>
    have hviews : server.views.mapValues
          (fun _ held => { held with view := held.view.apply (.highlight (line + 1) fileName) }) =
        server.views.mapValues fun _ held => held.follow (.highlight (line + 1) fileName) := rfl
    exact h.of_mapValues hviews fun function held hheld => hheld.follow _

theorem InOrder.save (h : server.InOrder) (around : Surroundings) (url : Url) :
    (server.save around url).1.InOrder := by
  rcases server.save_cases around url with ⟨hserver, -⟩ | ⟨root, fileName, hserver, -⟩
  · rwa [hserver]
  · rw [hserver]
    exact (h.rebuildViews around.machine fileName).of_views_eq
      (renewAnnotations_silent _ around root fileName).1

/-- Every message leaves the views in order. -/
theorem InOrder.handle (h : server.InOrder) (around : Surroundings) (message : Message) :
    (server.handle around message).1.InOrder := by
  cases message with
  | selected url line => exact h.select url line
  | saved url => exact h.save around url
  | showListing name => exact h.showListing around name
  | toggleAnnotations url => exact h.of_views_eq (server.toggle_silent around url).1
  | ready | settingsChanged => exact h.of_views_eq (server.views_configure _)
  | begun | opened | changed | closed | codeLens | hints | nothing | shutdown =>
      exact h.of_views_eq rfl

/-- A server stays in order in a run, whether or not that ends early. -/
theorem InOrder.run (h : server.InOrder) (turns : List (Surroundings × Message)) :
    (server.run turns).InOrder :=
  run_induction (motive := fun _ after => after.InOrder) server h
    (fun _ receipt _ hreceipt => hreceipt.handle receipt.around receipt.message) turns

theorem inOrder_initial : initial.InOrder := fun _ held hheld =>
  absurd hheld (Option.some_ne_none held).symm

/-! ## Saves -/

/-- A save changes nothing but the annotations of its file. -/
theorem renewAnnotations_eq (server : Server) (around : Surroundings) (root : Path)
    (fileName : String) :
    (server.renewAnnotations around root fileName).1 =
      { server with
        annotations := server.annotations.refresh fileName (server.loaded around root fileName) } := by
  unfold renewAnnotations
  split
  next => rfl
  next hhidden => rw [Annotations.refresh, if_neg hhidden]

/-- A save fills the slot of its file if it has one, and leaves the others. -/
theorem get?_renewAnnotations (server : Server) (around : Surroundings) (root : Path)
    (fileName probe : String) :
    (server.renewAnnotations around root fileName).1.annotations.get? probe =
      if fileName = probe then
        FileAnnotations.renew (server.loaded around root fileName) (server.annotations.get? probe)
      else server.annotations.get? probe := by
  rw [renewAnnotations_eq]
  exact Annotations.get?_refresh server.annotations fileName probe _

/-- A save that finishes rebuilds the views of its file and renews its annotations. -/
theorem save_of_permits {permits : Nat} (around : Surroundings) (hgo : url.isGo = true)
    (hfile : server.fileName? url = some fileName) (hpermits : server.permits = some permits) :
    ∃ root, server.root = some root ∧
      (server.save around url).1 =
        ((server.rebuildViews around.machine fileName).1.renewAnnotations around root fileName).1 ∧
      (server.save around url).2.finished = true := by
  obtain ⟨root, hroot, hname⟩ := Option.bind_eq_some_iff.mp hfile
  refine ⟨root, hroot, ?_⟩
  simp only [save, hgo, if_true, hroot, hname, hpermits, and_self]

/-- Without permits a save does not finish, and changes nothing. -/
theorem save_of_permits_none (hgo : url.isGo = true)
    (hfile : server.fileName? url = some fileName) (hpermits : server.permits = none) :
    server.save around url = (server, { finished := false }) := by
  obtain ⟨root, hroot, hname⟩ := Option.bind_eq_some_iff.mp hfile
  simp only [save, hgo, if_true, hroot, hname, hpermits]

/-- A save of a file changes what is shown of the file, and nothing else. -/
theorem saves_save (h : server.InOrder) (around : Surroundings) (hgo : url.isGo = true)
    (hfile : server.fileName? url = some fileName) :
    server.Saves around fileName (server.save around url) := by
  cases hpermits : server.permits with
  | none =>
      rw [save_of_permits_none hgo hfile hpermits]
      exact ⟨rfl, rfl, rfl, rfl, fun _ => rfl, fun _ _ => rfl, nofun, nofun, fun _ => rfl⟩
  | some permits =>
      obtain ⟨root, hroot, hserver, hfinished⟩ := save_of_permits around hgo hfile hpermits
      have hslot : ∀ other, (server.save around url).1.annotations.get? other =
          if fileName = other then
            FileAnnotations.renew (server.loaded around root fileName) (server.annotations.get? other)
          else server.annotations.get? other := fun other => by
        rw [hserver]
        exact get?_renewAnnotations _ around root fileName other
      rw [renewAnnotations_eq] at hserver
      constructor
      case root | documents | settings | permits =>
        rw [hserver]
        rfl
      case isShown =>
        intro other
        rw [Annotations.isShown_eq_isSome, hslot, Annotations.isShown_eq_isSome]
        split
        · exact FileAnnotations.isSome_renew _ _
        · rfl
      case annotations =>
        intro other hother
        rw [hslot, if_neg (Ne.symm hother)]
      case renewed =>
        intro _ hshown
        rw [Annotations.isShown_eq_isSome, Option.isSome_iff_exists] at hshown
        obtain ⟨kept, hkept⟩ := hshown
        refine ⟨root, hroot, ?_⟩
        rw [Annotations.report?_eq_content, hslot, if_pos rfl, hkept]
        rfl
      case views =>
        intro _
        rw [hserver]
        exact views_rebuildViews h around.machine fileName
      case unfinished =>
        intro hunfinished
        exact absurd (hfinished.symm.trans hunfinished) (by decide)

/-- After any messages the views are in order, a save of a Go file changes only what is shown of the
file, and showing a listing opens one view or does nothing. -/
theorem run_inOrder_and_frames (turns : List (Surroundings × Message)) :
    let server := initial.run turns
    server.InOrder ∧
      (∀ around url fileName, url.isGo = true → server.fileName? url = some fileName →
        server.Saves around fileName (server.handle around (.saved url))) ∧
      ∀ around name,
        let step := server.handle around (.showListing name)
        match server.opened? around name with
        | none => step.1 = server ∧ ∀ listing, .listing listing ∉ step.2.pushes
        | some held =>
            step.1 = { server with views := server.views.insert (Text.trimmed name) held } ∧
              step.2.pushes = [.listing held.view.listing] := by
  intro server
  have horder : server.InOrder := inOrder_initial.run turns
  exact ⟨horder, fun around url fileName hgo hfile => saves_save horder around hgo hfile,
    server.showListing_spec⟩

/-! ## Two files

Views of functions in two files are open, and the one of `/a.go` has a marked line. Then `/a.go` is
saved, when both functions have other rows. -/

/-- A machine on which `F` is in `/a.go`, other functions `G` are in `/b.go`, and reports are empty. -/
def twoFunctions (listing : String → String) : Machine := fun invocation =>
  match invocation.environment.get? "GOSSAFUNC" with
  | some request =>
      if request = "F+" then .ran (Text.Utf8.encode (listing "F\n# ./a.go")) 0
      else .ran (Text.Utf8.encode (listing "G\n# ./b.go")) 0
  | none => .ran [] 0

def firstListings : Surroundings :=
  ⟨twoFunctions fun name => "genssa " ++ name ++ "\n(5)\ndumped SSA", none, none⟩

def newListings : Surroundings :=
  ⟨twoFunctions fun name => "genssa " ++ name ++ "\n(6)\ndumped SSA", none, none⟩

def twoFiles : List (Surroundings × Message) :=
  [.begun (some (Path.ofString "/w")), .showListing " F ", .showListing "G",
    .selected (Url.ofPath "/w/a.go") 4].map fun message => (firstListings, message)

theorem run_inOrder_and_frames_twoFiles :
    let server := initial.run twoFiles
    let after := (server.handle newListings (.saved (Url.ofPath "/w/a.go"))).1
    (server.views.get? "F").map (fun held => (held.view.dump, held.view.highlight)) =
        some (["(5)"], some 5) ∧
      (after.views.get? "F").map (fun held => (held.view.dump, held.view.highlight)) =
        some (["(6)"], some 5) ∧
      (server.views.get? "G").isSome = true ∧
      after.views.get? "G" = server.views.get? "G" := by
  intro server after
  obtain ⟨-, hsave, -⟩ := run_inOrder_and_frames twoFiles
  have hfile : (initial.run twoFiles).fileName? (Url.ofPath "/w/a.go") = some "/a.go" := by
    decide +kernel
  have hfinished : ((initial.run twoFiles).handle newListings
      (.saved (Url.ofPath "/w/a.go"))).2.finished = true := by
    decide +kernel
  have hviews : after.views =
      server.views.mapValues fun _ held => held.resaved newListings.machine "/a.go" :=
    (hsave newListings (Url.ofPath "/w/a.go") "/a.go" (by decide) hfile).views hfinished
  rw [hviews, SortedMap.get?_mapValues, SortedMap.get?_mapValues]
  decide +kernel

end Server

end SsaLens
