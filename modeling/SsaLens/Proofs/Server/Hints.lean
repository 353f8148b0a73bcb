import SsaLens.Proofs.Server.Documents

/-! # The hints of a document

What is answered to a request for hints is told by what the server has received: whether the document
is held, how often its file was switched, and what a build of the file printed when it was switched or
saved last. A document is held that was changed without being open, so there are hints for it too. Other
files and other documents do not matter.
-/

namespace SsaLens

/-- The message switches or saves another file than the one of a URL, or is about another document. -/
inductive Message.Elsewhere (server : Server) (url : Url) : Message → Prop
  | toggled {other : Url} (h : server.fileName? other ≠ server.fileName? url) :
      Elsewhere server url (.toggleAnnotations (some other))
  | saved {other : Url} (h : server.fileName? other ≠ server.fileName? url) :
      Elsewhere server url (.saved other)
  | opened {other : Url} {version : Int} {text : String} (h : other.text ≠ url.text) :
      Elsewhere server url (.opened other version text)
  | changed {other : Url} {version : Int} {texts : List String} (h : other.text ≠ url.text) :
      Elsewhere server url (.changed other version texts)
  | closed {other : Url} (h : other.text ≠ url.text) : Elsewhere server url (.closed other)

/-- A message about something else leaves the document as it is. -/
theorem Message.Elsewhere.edit_eq {server : Server} {url : Url} {message : Message}
    (h : message.Elsewhere server url) (document : Option Document) :
    message.edit url.text document = document := by
  cases h with
  | toggled | saved => rfl
  | opened h | changed h | closed h => exact if_neg h

/-- A message about something else neither switches nor saves the file. -/
theorem Message.Elsewhere.not_renews {server : Server} {url : Url} {message : Message}
    {fileName : String} (h : message.Elsewhere server url) (hfile : server.fileName? url = some fileName)
    (around : Surroundings) : ¬ (Receipt.mk server around message).Renews fileName := by
  rintro (hrenews | hrenews)
  · cases h with
    | toggled h => exact h (hrenews.trans hfile.symm)
    | saved | opened | changed | closed => exact absurd hrenews (Option.some_ne_none _).symm
  · cases h with
    | saved h => exact h ((Option.ite_none_right_eq_some.mp hrenews).2.trans hfile.symm)
    | toggled | opened | changed | closed => exact absurd hrenews (Option.some_ne_none _).symm

namespace Server

variable {server other : Server} {url : Url} {range : LineRange}

/-- The hints of a document are decided by its file and its text. -/
theorem hints_congr (hroot : other.root = server.root) (hsettings : other.settings = server.settings)
    (hdocument : other.documents.get? url.text = server.documents.get? url.text)
    (hslot : ∀ fileName, server.fileName? url = some fileName →
      other.annotations.get? fileName = server.annotations.get? fileName) :
    other.hints url range = server.hints url range := by
  have hreport : (server.fileName? url).bind other.annotations.report? =
      (server.fileName? url).bind server.annotations.report? := by
    refine Option.bind_congr fun fileName hfile => ?_
    rw [Annotations.report?_eq_content, Annotations.report?_eq_content, hslot fileName hfile]
  have hfile : other.fileName? url = server.fileName? url := by rw [fileName?, hroot, fileName?]
  rw [hints, hsettings, hfile, hreport, hdocument, hints]

/-- A message about something else changes no root and no settings. -/
theorem root_settings_of_elsewhere {message : Message} (h : message.Elsewhere server url)
    (around : Surroundings) :
    (server.handle around message).1.root = server.root ∧
      (server.handle around message).1.settings = server.settings := by
  cases h with
  | toggled =>
      obtain ⟨annotations, hserver⟩ := server.toggle_frame around _
      exact ⟨congrArg (·.root) hserver, congrArg (·.settings) hserver⟩
  | saved =>
      obtain ⟨views, annotations, hserver⟩ := server.save_frame around _
      exact ⟨congrArg (·.root) hserver, congrArg (·.settings) hserver⟩
  | opened | changed | closed => exact ⟨rfl, rfl⟩

/-- A message about something else changes no hints. -/
theorem hints_of_elsewhere {message : Message} (h : message.Elsewhere server url)
    (around : Surroundings) (range : LineRange) :
    (server.handle around message).1.hints url range = server.hints url range := by
  obtain ⟨hroot, hsettings⟩ := root_settings_of_elsewhere h around
  refine hints_congr hroot hsettings ?_ fun fileName hfile => ?_
  · rw [get?_documents_handle, h.edit_eq]
  · have hstep := get?_annotations_step ⟨server, around, message⟩ fileName
    rw [Receipt.change_of_not_renews (h.not_renews hfile around), ite_self] at hstep
    exact hstep

/-- The hints of an annotated file are those of its report in the text that is held. -/
theorem hints_of_report {fileName : String} {report : Report} {document : Document}
    (henabled : server.settings.hintsEnabled = true) (hfile : server.fileName? url = some fileName)
    (hreport : server.annotations.report? fileName = some report)
    (hdocument : server.documents.get? url.text = some document) (range : LineRange) :
    server.hints url range = Hint.ofReport document.text report range := by
  simp only [hints, henabled, if_true, hfile, Option.bind_some, hreport, hdocument]

/-- There are hints only if they are enabled, and only for a text that is held of an annotated file. -/
theorem exists_report_of_hints (h : server.hints url range ≠ []) :
    server.settings.hintsEnabled = true ∧
      (∃ document, server.documents.get? url.text = some document) ∧
      ∃ fileName report, server.fileName? url = some fileName ∧
        server.annotations.report? fileName = some report := by
  unfold hints at h
  split at h
  next henabled =>
    split at h
    next report document hreport hdocument =>
      obtain ⟨fileName, hfile, hreport⟩ := Option.bind_eq_some_iff.mp hreport
      exact ⟨henabled, ⟨document, hdocument⟩, fileName, report, hfile, hreport⟩
    next => exact absurd rfl h
  next => exact absurd rfl h

/-- The report of a file is the one of its last switch or save, if it is annotated. -/
theorem report?_run (turns : List (Surroundings × Message)) (fileName : String) :
    (initial.run turns).annotations.report? fileName =
      displayed? fileName (initial.received turns) := by
  rw [Annotations.report?_eq_content, get?_annotations_run turns fileName]
  cases displayed? fileName (initial.received turns) <;> rfl

/-- What is answered to a request for hints: null or the list of the hints, if hints are enabled, the
document is held and its file was switched on, and else null. What is said elsewhere does not change it.
A document is held exactly while it is open, if only open documents are changed. -/
theorem hints_answered (turns : List (Surroundings × Message)) (around : Surroundings) (url : Url)
    (range : LineRange) :
    let server := initial.run turns
    let receipts := initial.received turns
    let messages := (initial.handled turns).map (·.2)
    let reply := (server.handle around (.hints url range)).2.reply
    (∀ fileName, server.settings.hintsEnabled = true → Message.IsHeld url.text messages →
        server.fileName? url = some fileName → Odd (toggles fileName receipts) →
        ∃ document last, Document.after? url.text messages = some document ∧
          lastRenewal? fileName receipts = some last ∧
          let hints := Hint.ofReport document.text (last.report fileName) range
          reply =
            if hints = [] then .null
            else .arr (hints.map fun hint => .obj (
              [("position", .obj [("line", .int hint.line.toNat), ("character", .int hint.column)]),
                ("label", .str hint.label), ("kind", .int 1)] ++
              (hint.tooltip.map fun text => ("tooltip", .str text)).toList ++
              [("paddingLeft", .bool false), ("paddingRight", .bool false)]))) ∧
      (reply ≠ .null → server.settings.hintsEnabled = true ∧ Message.IsHeld url.text messages ∧
        ∃ fileName, server.fileName? url = some fileName ∧ Odd (toggles fileName receipts)) ∧
      (Message.ChangesOpen messages →
        (Message.IsHeld url.text messages ↔ Message.IsOpen url.text messages)) ∧
      ∀ later message, message.Elsewhere server url →
        ((server.handle later message).1.handle around (.hints url range)).2.reply = reply := by
  intro server receipts messages reply
  have hreport : ∀ fileName, server.annotations.report? fileName = displayed? fileName receipts :=
    fun fileName => report?_run turns fileName
  have hdocument : server.documents.get? url.text = Document.after? url.text messages :=
    get?_documents_run turns url.text
  refine ⟨fun fileName henabled hheld hfile hodd => ?_, fun hreply => ?_, Message.isHeld_iff_isOpen,
    fun later message helsewhere => congrArg hintsReply (hints_of_elsewhere helsewhere later range)⟩
  · obtain ⟨last, hlast⟩ := exists_lastRenewal? hodd
    obtain ⟨document, hafter⟩ := Option.isSome_iff_exists.mp (Message.isSome_after?_iff.mpr hheld)
    have hdisplayed : server.annotations.report? fileName = some (last.report fileName) := by
      rw [hreport, displayed?, if_pos hodd, hlast, Option.map_some]
    exact ⟨document, last, hafter, hlast,
      congrArg hintsReply (hints_of_report henabled hfile hdisplayed (hdocument.trans hafter) range)⟩
  · have hhints : server.hints url range ≠ [] := fun hnil => hreply (congrArg hintsReply hnil)
    obtain ⟨henabled, hopen, fileName, report, hfile, hshown⟩ := exists_report_of_hints hhints
    rw [hdocument, ← Option.isSome_iff_exists, Message.isSome_after?_iff] at hopen
    rw [hreport, displayed?] at hshown
    exact ⟨henabled, hopen, fileName, hfile, (Option.ite_none_right_eq_some.mp hshown).1⟩

/-! ## A file that was saved

The annotations of a file are switched on while its build prints nothing. Then the file is saved, when a
call in it is inlined, and the document is closed and opened again. -/

/-- What a server sees while every build prints a text. -/
def printing (output : String) : Surroundings := ⟨fun _ => .ran (Text.Utf8.encode output) 0, none, none⟩

def savedHistory : List (Surroundings × Message) :=
  let url := Url.ofPath "/w/a.go"
  [(printing "", .begun (some (Path.ofString "/w"))), (printing "", .opened url 1 "x"),
    (printing "", .toggleAnnotations (some url)), (printing "a:1:1: inlining call to f", .saved url),
    (printing "", .closed url), (printing "", .opened url 1 "xy")]

theorem hints_answered_saved :
    let reply := ((initial.run savedHistory).handle (printing "")
      (.hints (Url.ofPath "/w/a.go") ⟨0, 0⟩)).2.reply
    Message.IsHeld (Url.ofPath "/w/a.go").text ((initial.handled savedHistory).map (·.2)) ∧
      reply = .arr [.obj [("position", .obj [("line", .int 0), ("character", .int 2)]),
        ("label", .str " inlining call to f"), ("kind", .int 1),
        ("paddingLeft", .bool false), ("paddingRight", .bool false)]] := by
  have hheld : Message.IsHeld (Url.ofPath "/w/a.go").text ((initial.handled savedHistory).map (·.2)) := by
    decide +kernel
  refine ⟨hheld, ?_⟩
  have hfile : (initial.run savedHistory).fileName? (Url.ofPath "/w/a.go") = some "/a.go" := by
    decide +kernel
  have htoggles : toggles "/a.go" (initial.received savedHistory) = 1 := by decide +kernel
  have hreport : (lastRenewal? "/a.go" (initial.received savedHistory)).map (·.report "/a.go") =
      some (SortedMap.insert ∅ 1 (.inlinedCall "f")) := by decide +kernel
  have htext : Document.after? (Url.ofPath "/w/a.go").text ((initial.handled savedHistory).map (·.2)) =
      some ⟨1, "xy"⟩ := by decide +kernel
  obtain ⟨hanswer, -⟩ := hints_answered savedHistory (printing "") (Url.ofPath "/w/a.go") ⟨0, 0⟩
  obtain ⟨document, last, hafter, hlast, hreply⟩ :=
    hanswer "/a.go" (by decide +kernel) hheld hfile (htoggles ▸ odd_one)
  rw [htext] at hafter
  obtain rfl := Option.some.inj hafter
  rw [hlast, Option.map_some] at hreport
  have hhints : Hint.ofReport "xy" (SortedMap.insert ∅ 1 (.inlinedCall "f")) ⟨0, 0⟩ =
      [⟨0, 2, " inlining call to f", none⟩] := by decide +kernel
  rw [hreply, Option.some.inj hreport, hhints]
  rfl

/-! ## A document that was not opened

A document is changed that was never opened, and its file is switched on. -/

def changedHistory : List (Surroundings × Message) :=
  let url := Url.ofPath "/w/a.go"
  [(printing "", .begun (some (Path.ofString "/w"))), (printing "", .changed url 1 ["xy"]),
    (printing "a:1:1: inlining call to f", .toggleAnnotations (some url))]

/-- There are hints for a document that is not open. -/
theorem hints_of_unopened :
    let url := Url.ofPath "/w/a.go"
    ¬ Message.IsOpen url.text (changedHistory.map (·.2)) ∧
      ((initial.run changedHistory).handle (printing "") (.hints url ⟨0, 0⟩)).2.reply =
        .arr [.obj [("position", .obj [("line", .int 0), ("character", .int 2)]),
          ("label", .str " inlining call to f"), ("kind", .int 1),
          ("paddingLeft", .bool false), ("paddingRight", .bool false)]] := by
  refine ⟨by decide +kernel, ?_⟩
  have hhints : (initial.run changedHistory).hints (Url.ofPath "/w/a.go") ⟨0, 0⟩ =
      [⟨0, 2, " inlining call to f", none⟩] := by decide +kernel
  exact congrArg hintsReply hhints

end Server

end SsaLens
