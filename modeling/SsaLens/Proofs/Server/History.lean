import Mathlib.Algebra.Ring.Parity
import SsaLens.Proofs.Annotations.Slot
import SsaLens.Proofs.Build.Lookup
import SsaLens.Proofs.Server.Frame
import SsaLens.Proofs.Url.Workspace

/-! # What a server has received

The annotations of a file depend on the toggles and saves of that file only, and the text of a document
on what was told of that document only.
-/

namespace SsaLens

namespace Receipt

/-- The file whose annotations are switched. -/
def toggled? (receipt : Receipt) : Option String :=
  match receipt.message with
  | .toggleAnnotations (some url) => receipt.server.fileName? url
  | _ => none

/-- The Go file that was saved. -/
def saved? (receipt : Receipt) : Option String :=
  match receipt.message with
  | .saved url => if url.isGo then receipt.server.fileName? url else none
  | _ => none

/-- The file was switched or saved. -/
def Renews (fileName : String) (receipt : Receipt) : Prop :=
  receipt.toggled? = some fileName ∨ receipt.saved? = some fileName

instance (fileName : String) : DecidablePred (Renews fileName) := fun receipt =>
  inferInstanceAs (Decidable (receipt.toggled? = some fileName ∨ receipt.saved? = some fileName))

/-- The report that a build of the file makes when the message is handled. -/
def report (receipt : Receipt) (fileName : String) : Report :=
  match receipt.server.root with
  | some root =>
      ((receipt.server.toolchain receipt.around).compiler receipt.around.machine
        (.report root.shown fileName)).report
  | none => ∅

/-- What a message makes of the annotations of a file. -/
def change (receipt : Receipt) (fileName : String) (slot : Option FileAnnotations) :
    Option FileAnnotations :=
  if receipt.toggled? = some fileName then
    FileAnnotations.arrive (receipt.report fileName) (FileAnnotations.switch slot)
  else if receipt.saved? = some fileName then FileAnnotations.renew (receipt.report fileName) slot
  else slot

/-- A message that neither switches nor saves a file leaves its annotations. -/
theorem change_of_not_renews {receipt : Receipt} {fileName : String}
    (h : ¬ receipt.Renews fileName) (slot : Option FileAnnotations) :
    receipt.change fileName slot = slot := by
  obtain ⟨htoggled, hsaved⟩ := not_or.mp h
  rw [change, if_neg htoggled, if_neg hsaved]

end Receipt

/-- What a message makes of the document of a URL. A change is made to an empty document of version 0,
if the document is not there. -/
def Message.edit (url : String) (document : Option Document) : Message → Option Document
  | .opened other version text => if other.text = url then some ⟨version, text⟩ else document
  | .changed other version texts =>
      if other.text = url then
        let held := document.getD ⟨0, ""⟩
        some (if version < held.version then held else ⟨version, texts.getLast?.getD held.text⟩)
      else document
  | .closed other => if other.text = url then none else document
  | _ => document

/-- The document of a URL after messages to a new server. -/
def Document.after? (url : String) (messages : List Message) : Option Document :=
  messages.foldl (Message.edit url) none

namespace Server

/-- How often a file was switched. -/
def toggles (fileName : String) (receipts : List Receipt) : Nat :=
  receipts.countP fun receipt => receipt.toggled? = some fileName

/-- The last switch or save of a file. -/
def lastRenewal? (fileName : String) (receipts : List Receipt) : Option Receipt :=
  (receipts.filter fun receipt => receipt.Renews fileName).getLast?

/-- The report of a file that is annotated: the one built at its last switch or save. -/
def displayed? (fileName : String) (receipts : List Receipt) : Option Report :=
  if Odd (toggles fileName receipts) then (lastRenewal? fileName receipts).map (·.report fileName)
  else none

variable {server : Server} {around : Surroundings} {fileName : String}

/-- A further message counts if it switches the file. -/
theorem toggles_concat (fileName : String) (receipts : List Receipt) (receipt : Receipt) :
    toggles fileName (receipts ++ [receipt]) =
      toggles fileName receipts + if receipt.toggled? = some fileName then 1 else 0 := by
  simp [toggles, List.countP_append, List.countP_singleton]

theorem getLast?_filter_concat {α : Type} (kept : α → Bool) (items : List α) (item : α) :
    ((items ++ [item]).filter kept).getLast? =
      if kept item then some item else (items.filter kept).getLast? := by
  rw [List.filter_append]
  by_cases h : kept item
  · simp [h]
  · simp [h]

/-- A further message is the last renewal if it switches or saves the file. -/
theorem lastRenewal?_concat (fileName : String) (receipts : List Receipt) (receipt : Receipt) :
    lastRenewal? fileName (receipts ++ [receipt]) =
      if receipt.Renews fileName then some receipt else lastRenewal? fileName receipts := by
  rw [lastRenewal?, getLast?_filter_concat]
  simp only [decide_eq_true_eq, lastRenewal?]

/-! ## Annotations -/

/-- A file that was switched an odd number of times has a last switch or save. -/
theorem exists_lastRenewal? {receipts : List Receipt} (h : Odd (toggles fileName receipts)) :
    ∃ receipt, lastRenewal? fileName receipts = some receipt := by
  have hpos : 0 < toggles fileName receipts := Nat.pos_of_ne_zero fun hzero => by simp [hzero] at h
  obtain ⟨receipt, hmem, htoggled⟩ := List.countP_pos_iff.mp hpos
  have hrenews : receipt ∈ receipts.filter fun receipt => receipt.Renews fileName :=
    List.mem_filter.mpr ⟨hmem, decide_eq_true (Or.inl (of_decide_eq_true htoggled))⟩
  exact ⟨_, List.getLast?_eq_some_getLast (List.ne_nil_of_mem hrenews)⟩

/-- A switch shows a file that is hidden and hides one that is shown; a save renews what is shown. -/
theorem displayed?_concat (fileName : String) (receipts : List Receipt) (receipt : Receipt) :
    (displayed? fileName (receipts ++ [receipt])).map FileAnnotations.ready =
      receipt.change fileName ((displayed? fileName receipts).map FileAnnotations.ready) := by
  simp only [displayed?, toggles_concat, lastRenewal?_concat, Receipt.Renews, Receipt.change]
  -- shown or hidden before, and then switched, saved or neither
  by_cases hodd : Odd (toggles fileName receipts)
  · obtain ⟨last, hlast⟩ := exists_lastRenewal? hodd
    have heven : ¬ Odd (toggles fileName receipts + 1) := fun h => Nat.odd_add_one.mp h hodd
    by_cases htoggled : receipt.toggled? = some fileName
    · simp [htoggled, hodd, heven, hlast, FileAnnotations.switch, FileAnnotations.arrive]
    · by_cases hsaved : receipt.saved? = some fileName
      · simp [htoggled, hsaved, hodd, hlast, FileAnnotations.renew]
      · simp [htoggled, hsaved, hodd, hlast]
  · have hnext : Odd (toggles fileName receipts + 1) := Nat.odd_add_one.mpr hodd
    by_cases htoggled : receipt.toggled? = some fileName
    · simp [htoggled, hodd, hnext, FileAnnotations.switch, FileAnnotations.arrive]
    · simp [htoggled, hodd, FileAnnotations.renew]

section Annotations

variable {url : Url} {root : Path}

/-- The decisions that are loaded for a document are those that a build makes of its file. -/
theorem loaded_eq_report (message : Message) (hroot : server.root = some root)
    (h : server.fileName? url = some fileName) :
    server.loaded around root fileName = (Receipt.mk server around message).report fileName := by
  obtain ⟨other, hother, hname⟩ := Option.bind_eq_some_iff.mp h
  obtain rfl : other = root := Option.some.inj (hother.symm.trans hroot)
  rw [loaded, Receipt.report, hroot,
    Compiler.value_loadReport (Url.root_shown_ne_empty hname) (Url.fileName?_ne_empty hname)]

/-- A toggle switches the slot of its file and fills it at once, and leaves the others. -/
theorem get?_toggleFile (server : Server) (around : Surroundings) (root : Path)
    (fileName probe : String) :
    (server.toggleFile around root fileName).1.annotations.get? probe =
      if fileName = probe then
        FileAnnotations.arrive (server.loaded around root fileName)
          (FileAnnotations.switch (server.annotations.get? probe))
      else server.annotations.get? probe := by
  have henter := Annotations.get?_enter server.annotations fileName probe
  have hsnd := Annotations.enter_snd server.annotations fileName
  unfold toggleFile
  rcases hentered : server.annotations.enter fileName with ⟨annotations, _ | _⟩
  · simp only [hentered] at henter ⊢
    rw [Annotations.get?_deliver, henter]
    split <;> rfl
  · simp only [hentered] at henter hsnd ⊢
    rw [henter]
    split
    next heq =>
      -- what was hidden waits for no report
      subst heq
      have hshown : server.annotations.isShown fileName = true := by
        by_contra hhidden
        simp [hhidden] at hsnd
      rw [Annotations.isShown_eq_isSome, Option.isSome_iff_exists] at hshown
      obtain ⟨kept, hkept⟩ := hshown
      rw [hkept]
      rfl
    next => rfl

/-- A toggle that finishes changes the slot of a file as its message says. -/
theorem get?_annotations_toggle (fileName : String) :
    (server.toggle around (some url)).1.annotations.get? fileName =
      if (server.toggle around (some url)).2.finished then
        (Receipt.mk server around (.toggleAnnotations (some url))).change fileName
          (server.annotations.get? fileName)
      else server.annotations.get? fileName := by
  have htoggled : (Receipt.mk server around (.toggleAnnotations (some url))).toggled? =
      server.fileName? url := rfl
  have hsaved : (Receipt.mk server around (.toggleAnnotations (some url))).saved? = none := rfl
  rw [Receipt.change, htoggled, hsaved]
  cases hfile : server.fileName? url with
  | none => simp [toggle_of_outside around hfile]
  | some other =>
      cases hpermits : server.permits with
      | none => simp [toggle_of_permits_none around hfile hpermits]
      | some permits =>
          obtain ⟨root, hroot, hserver, hfinished⟩ := toggle_of_permits around hfile hpermits
          rw [hserver, get?_toggleFile, hfinished,
            loaded_eq_report (.toggleAnnotations (some url)) hroot hfile]
          by_cases heq : other = fileName
          · subst heq
            simp
          · simp [heq]

/-- A save that finishes changes the slot of a file as its message says. -/
theorem get?_annotations_save (fileName : String) :
    (server.save around url).1.annotations.get? fileName =
      if (server.save around url).2.finished then
        (Receipt.mk server around (.saved url)).change fileName (server.annotations.get? fileName)
      else server.annotations.get? fileName := by
  have htoggled : (Receipt.mk server around (.saved url)).toggled? = none := rfl
  have hsaved : (Receipt.mk server around (.saved url)).saved? =
      if url.isGo then server.fileName? url else none := rfl
  rw [Receipt.change, htoggled, hsaved]
  by_cases hgo : url.isGo = true
  · cases hfile : server.fileName? url with
    | none => simp [save_of_outside around hfile]
    | some other =>
        cases hpermits : server.permits with
        | none => simp [save_of_permits_none hgo hfile hpermits]
        | some permits =>
            obtain ⟨root, hroot, hserver, hfinished⟩ := save_of_permits around hgo hfile hpermits
            have hslot : (server.save around url).1.annotations.get? fileName =
                if other = fileName then
                  FileAnnotations.renew (server.loaded around root other)
                    (server.annotations.get? fileName)
                else server.annotations.get? fileName := by
              rw [hserver]
              exact get?_renewAnnotations _ around root other fileName
            rw [hslot, hfinished, loaded_eq_report (.saved url) hroot hfile]
            by_cases heq : other = fileName
            · subst heq
              simp [hgo]
            · simp [hgo, heq]
  · simp [save, hgo]

/-- A message changes the annotations of a file only if it switches or saves it and is finished. -/
theorem get?_annotations_step (receipt : Receipt) (fileName : String) :
    receipt.step.1.annotations.get? fileName =
      if receipt.step.2.finished then
        receipt.change fileName (receipt.server.annotations.get? fileName)
      else receipt.server.annotations.get? fileName := by
  obtain ⟨server, around, message⟩ := receipt
  cases message with
  | toggleAnnotations url =>
      cases url with
      | none => rfl
      | some url => exact get?_annotations_toggle fileName
  | saved url => exact get?_annotations_save fileName
  | showListing name =>
      obtain ⟨views, hserver⟩ := server.showListing_frame around name
      exact (congrArg (·.annotations.get? fileName) hserver).trans (ite_self _).symm
  | selected url line =>
      obtain ⟨views, hserver⟩ := server.select_frame url line
      exact (congrArg (·.annotations.get? fileName) hserver).trans (ite_self _).symm
  | ready | settingsChanged =>
      obtain ⟨settings, permits, hserver⟩ := server.configure_frame around.configuration
      exact (congrArg (·.annotations.get? fileName) hserver).trans (ite_self _).symm
  | begun | opened | changed | closed | codeLens | hints | nothing | shutdown => rfl

/-- With a limiter, a message that is not finished neither switches nor saves a file. -/
theorem finished_of_renews {receipt : Receipt} {permits : Nat}
    (hpermits : receipt.server.permits = some permits) (h : receipt.Renews fileName) :
    receipt.step.2.finished = true := by
  obtain ⟨server, around, message⟩ := receipt
  refine finished_of_unconfigured hpermits ?_
  cases message with
  | ready | settingsChanged =>
      rcases h with h | h <;> exact absurd h (Option.some_ne_none _).symm
  | _ => rfl

/-- With a limiter, a message changes the annotations of a file just as it switches or saves it. -/
theorem get?_annotations_of_permits {receipt : Receipt} {permits : Nat}
    (hpermits : receipt.server.permits = some permits) (fileName : String) :
    receipt.step.1.annotations.get? fileName =
      receipt.change fileName (receipt.server.annotations.get? fileName) := by
  rw [get?_annotations_step]
  split
  next => rfl
  next hfailed =>
    exact (Receipt.change_of_not_renews (mt (finished_of_renews hpermits) hfailed) _).symm

/-- A file is annotated if it was switched an odd number of times. -/
theorem get?_annotations_run (turns : List (Surroundings × Message)) (fileName : String) :
    (initial.run turns).annotations.get? fileName =
      (displayed? fileName (initial.received turns)).map FileAnnotations.ready := by
  refine run_initial_induction (motive := fun receipts server =>
    server.annotations.get? fileName = (displayed? fileName receipts).map FileAnnotations.ready)
    rfl (fun receipts receipt permits hpermits ih => ?_) turns
  rw [get?_annotations_of_permits hpermits, displayed?_concat, ih]

end Annotations

/-! ## Documents -/

/-- A message changes the document that it is about. -/
theorem get?_documents_handle (server : Server) (around : Surroundings) (message : Message)
    (url : String) :
    (server.handle around message).1.documents.get? url =
      message.edit url (server.documents.get? url) := by
  cases message with
  | opened other version text => exact SortedMap.get?_insert _ _ _ _
  | changed other version texts =>
      refine (SortedMap.get?_insert _ _ _ _).trans ?_
      rw [Message.edit]
      split
      next heq => rw [heq]
      next => rfl
  | closed other => exact SortedMap.get?_erase _ _ _
  | saved other =>
      obtain ⟨views, annotations, hserver⟩ := server.save_frame around other
      exact congrArg (·.documents.get? url) hserver
  | toggleAnnotations other =>
      obtain ⟨annotations, hserver⟩ := server.toggle_frame around other
      exact congrArg (·.documents.get? url) hserver
  | showListing name =>
      obtain ⟨views, hserver⟩ := server.showListing_frame around name
      exact congrArg (·.documents.get? url) hserver
  | selected other line =>
      obtain ⟨views, hserver⟩ := server.select_frame other line
      exact congrArg (·.documents.get? url) hserver
  | ready | settingsChanged =>
      obtain ⟨settings, permits, hserver⟩ := server.configure_frame around.configuration
      exact congrArg (·.documents.get? url) hserver
  | begun | codeLens | hints | nothing | shutdown => rfl

/-- The messages that are handled are those that were received. -/
theorem handled_messages (server : Server) (turns : List (Surroundings × Message)) :
    (server.handled turns).map (·.2) = (server.received turns).map (·.message) :=
  List.map_map

/-- What is held of a document was told by the messages that were handled. -/
theorem get?_documents_run (turns : List (Surroundings × Message)) (url : String) :
    (initial.run turns).documents.get? url =
      Document.after? url ((initial.handled turns).map (·.2)) := by
  rw [handled_messages]
  refine run_initial_induction (motive := fun receipts server =>
    server.documents.get? url = Document.after? url (receipts.map (·.message)))
    rfl (fun receipts receipt permits hpermits ih => ?_) turns
  rw [Receipt.step, get?_documents_handle, ih, List.map_append, Document.after?, Document.after?,
    List.map_singleton, List.foldl_concat]

end Server

end SsaLens
