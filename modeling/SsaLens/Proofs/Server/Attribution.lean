import SsaLens.Proofs.Server.Hints
import SsaLens.Proofs.SourceFile

/-! # Messages about a file

A view is of the file that its dump named when it was opened, and stays so. A selection, a save and a
toggle of a document concern the views and the annotations of its file, and the document has the name
that a dump gives to the file.
-/

namespace SsaLens

namespace Receipt

/-- The view of a function that the message opens. -/
def opened? (function : String) (receipt : Receipt) : Option OpenView :=
  match receipt.message with
  | .showListing name =>
      if Text.trimmed name = function then receipt.server.opened? receipt.around name else none
  | _ => none

/-- What the compiler prints for the listing of a function when the message is handled. -/
def Prints (receipt : Receipt) (function output : String) : Prop :=
  ∃ root status, receipt.server.root = some root ∧
    (receipt.server.toolchain receipt.around).compiler receipt.around.machine
      (.dump root.shown function) = .printed output status

end Receipt

/-- The view after a line of a file was selected: if it is of that file, it highlights the line. -/
def OpenView.marked (held : OpenView) (fileName : String) (line : UInt32) : OpenView :=
  if held.view.fileName = fileName then
    { held with view := { held.view with highlight := some line } }
  else held

namespace Server

/-- The message that opened the view of a function, the last one if there were several. -/
def lastOpening? (function : String) (receipts : List Receipt) : Option Receipt :=
  (receipts.filter fun receipt => (receipt.opened? function).isSome).getLast?

/-- Messages about a document change the views and the annotations of one file. -/
structure Addresses (server : Server) (url : Url) (fileName : String) : Prop where
  selected : ∀ around line, (server.handle around (.selected url line)).1 =
    { server with views := server.views.mapValues fun _ held => held.marked fileName (line + 1) }
  saved : ∀ around, url.isGo = true →
    server.Saves around fileName (server.handle around (.saved url))
  switched : ∀ around, (server.handle around (.toggleAnnotations (some url))).2.finished = true →
    let after := (server.handle around (.toggleAnnotations (some url))).1
    after.views = server.views ∧ ∀ other, after.annotations.isShown other =
      if other = fileName then !server.annotations.isShown other else server.annotations.isShown other

variable {server : Server} {around : Surroundings} {url : Url} {function fileName : String}
  {held : OpenView} {receipt : Receipt}

/-! ## The file of a view -/

/-- A view is opened on what the compiler printed then, and is of the file named there. -/
theorem printed_of_opened? {name : String} (h : server.opened? around name = some held) :
    ∃ output dump, (Receipt.mk server around (.showListing name)).Prints (Text.trimmed name) output ∧
      Dump.extract output (Text.trimmed name) = some dump ∧ held.view.fileName = dump.fileName := by
  unfold opened? at h
  dsimp only at h
  split at h
  · exact absurd h (Option.some_ne_none held).symm
  split at h
  next root _ hroot _ =>
    split at h
    next session view hstart =>
      obtain ⟨dump, hdump, rfl, rfl⟩ := Session.start_eq_ok_iff.mp hstart
      obtain ⟨-, output, status, hprinted, hextract⟩ := Compiler.printed_of_loadDump hdump
      obtain rfl := Option.some.inj h
      exact ⟨output, dump, ⟨root, status, hroot, hprinted⟩, hextract, rfl⟩
    next => exact absurd h (Option.some_ne_none held).symm
  next => exact absurd h (Option.some_ne_none held).symm

theorem printed_of_receipt_opened? (h : receipt.opened? function = some held) :
    ∃ output dump, receipt.Prints function output ∧ Dump.extract output function = some dump ∧
      held.view.fileName = dump.fileName := by
  obtain ⟨server, around, message⟩ := receipt
  unfold Receipt.opened? at h
  dsimp only at h
  split at h
  next name =>
    obtain ⟨rfl, hopened⟩ := Option.ite_none_right_eq_some.mp h
    exact printed_of_opened? hopened
  next => exact absurd h (Option.some_ne_none held).symm

theorem fileName_resaved (held : OpenView) (machine : Machine) (fileName : String) :
    (held.resaved machine fileName).view.fileName = held.view.fileName := by
  unfold OpenView.resaved
  dsimp only
  split
  · split <;> rfl
  · rfl

/-- No view comes or goes, and none changes its file, where the views change one by one and keep theirs. -/
theorem fileName_of_mapValues {after : Server} {next : OpenView → OpenView}
    (hviews : after.views = server.views.mapValues fun _ held => next held)
    (hnext : ∀ held, (next held).view.fileName = held.view.fileName)
    (hheld : after.views.get? function = some held) :
    ∃ before, server.views.get? function = some before ∧
      held.view.fileName = before.view.fileName := by
  rw [hviews, SortedMap.get?_mapValues] at hheld
  obtain ⟨before, hbefore, rfl⟩ := Option.map_eq_some_iff.mp hheld
  exact ⟨before, hbefore, hnext before⟩

theorem fileName_of_views_eq {after : Server} (hviews : after.views = server.views)
    (hheld : after.views.get? function = some held) :
    ∃ before, server.views.get? function = some before ∧
      held.view.fileName = before.view.fileName :=
  ⟨held, hviews ▸ hheld, rfl⟩

theorem fileName_marked (held : OpenView) (fileName : String) (line : UInt32) :
    (held.marked fileName line).view.fileName = held.view.fileName := by
  unfold OpenView.marked
  split <;> rfl

theorem select_of_fileName? (h : server.fileName? url = some fileName) (line : UInt32) :
    (server.select url line).1 =
      { server with views := server.views.mapValues fun _ held => held.marked fileName (line + 1) } := by
  have hmarked : ∀ held : OpenView,
      { held with view := held.view.apply (.highlight (line + 1) fileName) } =
        held.marked fileName (line + 1) := by
    intro held
    rw [View.apply, OpenView.marked]
    by_cases hfile : held.view.fileName = fileName
    · simp [View.concerns, ViewEvent.fileName, hfile]
    · simp [View.concerns, ViewEvent.fileName, hfile, Ne.symm hfile]
  rw [select, h]
  simp only [hmarked]

theorem select_of_outside (h : server.fileName? url = none) (line : UInt32) :
    (server.select url line).1 = server := by
  rw [select, h]

/-- A selection leaves every view at its file. -/
theorem fileName_select (line : UInt32)
    (hheld : (server.select url line).1.views.get? function = some held) :
    ∃ before, server.views.get? function = some before ∧
      held.view.fileName = before.view.fileName := by
  cases hfile : server.fileName? url with
  | none => exact fileName_of_views_eq (congrArg (·.views) (select_of_outside hfile line)) hheld
  | some fileName =>
      have hviews : (server.select url line).1.views =
          server.views.mapValues fun _ held => held.marked fileName (line + 1) :=
        congrArg (·.views) (select_of_fileName? hfile line)
      exact fileName_of_mapValues hviews
        (fun held => fileName_marked held fileName (line + 1)) hheld

/-- A save leaves every view at its file, also a view whose rows it replaces. -/
theorem fileName_save (h : server.InOrder)
    (hheld : (server.save around url).1.views.get? function = some held) :
    ∃ before, server.views.get? function = some before ∧
      held.view.fileName = before.view.fileName := by
  rcases server.save_cases around url with ⟨hserver, -⟩ | ⟨root, fileName, hserver, -⟩
  · exact fileName_of_views_eq (congrArg (·.views) hserver) hheld
  · rw [hserver, (renewAnnotations_silent _ around root fileName).1] at hheld
    exact fileName_of_mapValues (views_rebuildViews h around.machine fileName)
      (fun held => fileName_resaved held around.machine fileName) hheld

/-- A message opens the view of a function, or leaves it the file that it is of. -/
theorem opened?_or_fileName_step (h : receipt.server.InOrder)
    (hheld : receipt.step.1.views.get? function = some held) :
    receipt.opened? function = some held ∨
      receipt.opened? function = none ∧ ∃ before, receipt.server.views.get? function = some before ∧
        held.view.fileName = before.view.fileName := by
  obtain ⟨server, around, message⟩ := receipt
  cases message with
  | showListing name =>
      have hspec := server.showListing_spec around name
      have hstep : (Receipt.mk server around (.showListing name)).step =
          server.showListing around name := rfl
      have hopened : (Receipt.mk server around (.showListing name)).opened? function =
          if Text.trimmed name = function then server.opened? around name else none := rfl
      rw [hstep] at hheld
      cases hfirst : server.opened? around name with
      | none =>
          simp only [hfirst] at hspec
          rw [hopened, hfirst, ite_self]
          exact Or.inr ⟨rfl, fileName_of_views_eq (congrArg (·.views) hspec.1) hheld⟩
      | some first =>
          simp only [hfirst] at hspec
          rw [hspec.1, SortedMap.get?_insert] at hheld
          rw [hopened, hfirst]
          split at hheld
          next heq =>
            rw [if_pos heq]
            exact Or.inl hheld
          next hne =>
            rw [if_neg hne]
            exact Or.inr ⟨rfl, held, hheld, rfl⟩
  | selected url line => exact Or.inr ⟨rfl, fileName_select line hheld⟩
  | saved url => exact Or.inr ⟨rfl, fileName_save h hheld⟩
  | toggleAnnotations url =>
      exact Or.inr ⟨rfl, fileName_of_views_eq (server.toggle_silent around url).1 hheld⟩
  | ready | settingsChanged =>
      exact Or.inr ⟨rfl, fileName_of_views_eq (server.views_configure around.configuration) hheld⟩
  | begun | opened | changed | closed | codeLens | hints | nothing | shutdown =>
      exact Or.inr ⟨rfl, fileName_of_views_eq rfl hheld⟩

/-- A further message is the last opening if it opens the view, else the last one stays what it was. -/
theorem lastOpening?_concat (function : String) (receipts : List Receipt) (receipt : Receipt) :
    lastOpening? function (receipts ++ [receipt]) =
      if (receipt.opened? function).isSome then some receipt else lastOpening? function receipts := by
  rw [lastOpening?, getLast?_filter_concat]
  rfl

/-- A view is of the file that the last message to open it found. -/
theorem exists_lastOpening? (turns : List (Surroundings × Message))
    (hheld : (initial.run turns).views.get? function = some held) :
    ∃ receipt first, lastOpening? function (initial.received turns) = some receipt ∧
      receipt.opened? function = some first ∧ held.view.fileName = first.view.fileName := by
  refine (run_induction (motive := fun receipts server => server.InOrder ∧
    ∀ held, server.views.get? function = some held →
      ∃ receipt first, lastOpening? function receipts = some receipt ∧
        receipt.opened? function = some first ∧ held.view.fileName = first.view.fileName)
    initial ⟨inOrder_initial, fun held hheld => absurd hheld (Option.some_ne_none held).symm⟩
    ?_ turns).2 held hheld
  rintro receipts receipt - ⟨horder, ih⟩
  refine ⟨horder.handle receipt.around receipt.message, fun held hheld => ?_⟩
  rw [lastOpening?_concat]
  -- a message that opens the view is the last one to do so; otherwise an earlier one was
  rcases opened?_or_fileName_step horder hheld with hopened | ⟨hopened, before, hbefore, hfile⟩
  · rw [hopened]
    exact ⟨receipt, held, rfl, hopened, rfl⟩
  · obtain ⟨last, first, hlast, hfirst, hsame⟩ := ih before hbefore
    rw [hopened]
    exact ⟨last, first, hlast, hfirst, hfile.trans hsame⟩

/-! ## The file of a document -/

/-- A toggle that finishes shows or hides the file of its document, and no other one. -/
theorem isShown_toggle (h : server.fileName? url = some fileName)
    (hfinished : (server.toggle around (some url)).2.finished = true) (other : String) :
    (server.toggle around (some url)).1.annotations.isShown other =
      if other = fileName then !server.annotations.isShown other
      else server.annotations.isShown other := by
  have hslot : (server.toggle around (some url)).1.annotations.get? other = _ :=
    get?_annotations_toggle other
  have htoggled : (Receipt.mk server around (.toggleAnnotations (some url))).toggled? =
      some fileName := h
  have hsaved : (Receipt.mk server around (.toggleAnnotations (some url))).saved? = none := rfl
  rw [hfinished, if_pos rfl, Receipt.change, htoggled, hsaved] at hslot
  rw [Annotations.isShown_eq_isSome, Annotations.isShown_eq_isSome, hslot]
  by_cases heq : other = fileName
  · subst heq
    cases server.annotations.get? other <;> simp [FileAnnotations.switch, FileAnnotations.arrive]
  · simp [heq, Ne.symm heq]

/-- The messages about a document address the file it is named after. -/
theorem addresses_of_fileName? (horder : server.InOrder) (h : server.fileName? url = some fileName) :
    server.Addresses url fileName := by
  constructor
  case selected => exact fun _ line => select_of_fileName? h line
  case saved => exact fun around hgo => saves_save horder around hgo h
  case switched =>
    intro around hfinished
    exact ⟨(server.toggle_silent around (some url)).1, isShown_toggle h hfinished⟩

end Server

namespace SourceFile

open Server

/-- A file whose names hold the mark of a dump's header, dots and a blank. -/
def hashedFile : SourceFile where
  names := ["a#b", "..c", "x y.go"]
  ne_nil := by decide
  ordinary := by decide
  one_line := by decide
  trimmed := by decide
  unclosed := by decide

def hashedHeading : Dump.Heading "pkg.F" hashedFile.text where
  front := "pass F\n"
  first := "genssa F"
  ending := "\r"
  rest := "v1 (5) a\ndumped SSA for F"
  first_one_line := by decide
  ending_return := by decide
  opened := by decide
  unopened := by decide
  first_unclosed := by decide
  closed := by decide

/-- A view of the file is opened. -/
def hashedHistory : List (Surroundings × Message) :=
  [.begun (some (Path.ofString "/w/")), .showListing "pkg.F"].map fun message =>
    (printing hashedHeading.output, message)

end SourceFile

end SsaLens
