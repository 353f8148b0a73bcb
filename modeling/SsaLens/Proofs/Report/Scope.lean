import SsaLens.Command.Run
import SsaLens.Proofs.Diagnostic.FilePart
import SsaLens.Proofs.SortedMap
import SsaLens.Proofs.Text.Lines

/-! # Diagnostics of other files

A report is read from a log without regard to the files that its lines name. Of all diagnostics with
a line number the last one counts, so the verdicts of a file are its own only as far as it has the
last word.
-/

namespace SsaLens

namespace Report

/-- The last verdict on a line number. -/
def lastVerdict? (number : UInt32) (found : List (UInt32 × Verdict)) : Option Verdict :=
  (found.reverse.find? (·.1 = number)).map (·.2)

/-- The decision of a number is the last verdict among the diagnostics of the text. -/
theorem get?_parse (text : String) (number : UInt32) :
    (parse text).get? number = lastVerdict? number (diagnostics text) :=
  SortedMap.get?_ofEntries (diagnostics text) number

/-- A diagnostic of another file: a line that is classified, and names a file that is not the given one
in the workspace. -/
def isForeign (fileName : String) (line : List Char) : Bool :=
  match Diagnostic.file? (String.ofList line) with
  | some file => workspaceName file ≠ fileName
  | none => false

/-- A line is foreign just if it is classified, and the grammar reads a file of another name in front. -/
theorem isForeign_iff {fileName : String} {line : List Char} :
    isForeign fileName line = true ↔ (Diagnostic.classify (String.ofList line)).isSome = true ∧
      ∃ file : String, Diagnostic.Names line file.toList ∧ workspaceName file ≠ fileName := by
  have hnamed : ∀ file, Diagnostic.file? (String.ofList line) = some file ↔
      (Diagnostic.classify (String.ofList line)).isSome = true ∧
        Diagnostic.Names line file.toList := fun file => by
    rw [Diagnostic.file?_eq_some_iff, String.toList_ofList]
  unfold isForeign
  constructor
  · intro h
    split at h
    next file hfile =>
      obtain ⟨hclassified, hnames⟩ := (hnamed file).mp hfile
      exact ⟨hclassified, file, hnames, of_decide_eq_true h⟩
    next => exact absurd h Bool.false_ne_true
  · rintro ⟨hclassified, file, hnames, hother⟩
    rw [(hnamed file).mpr ⟨hclassified, hnames⟩]
    exact decide_eq_true hother

/-- A log without the diagnostics of other files. -/
def ownLog (fileName log : String) : String :=
  String.ofList (Text.withoutLines (isForeign fileName) log.toList)

/-- The diagnostics of a file in a log. -/
def ownDiagnostics (fileName log : String) : List (UInt32 × Verdict) :=
  ((Text.lines log.toList).filter fun line => !isForeign fileName line).filterMap fun line =>
    Diagnostic.classify (String.ofList line)

/-- The last diagnostic on every line number says what the last one of the file says. -/
def HasLastWord (fileName log : String) : Prop :=
  ∀ number, lastVerdict? number (diagnostics log) =
    lastVerdict? number (ownDiagnostics fileName log)

/-- The log of one file has the diagnostics that name it, in their order. -/
theorem diagnostics_ownLog (fileName log : String) :
    diagnostics (ownLog fileName log) = ownDiagnostics fileName log := by
  rw [diagnostics, ownLog, String.toList_ofList, Text.lines_withoutLines, ownDiagnostics]

/-- Reading the log of one file decides as the whole log does exactly if that file has the last word on
every line. -/
theorem parse_ownLog_eq_iff (fileName log : String) :
    parse (ownLog fileName log) = parse log ↔ HasLastWord fileName log := by
  constructor
  · intro heq number
    rw [← diagnostics_ownLog, ← get?_parse, ← get?_parse, heq]
  · intro hlast
    refine SortedMap.ext_get? fun number => ?_
    rw [get?_parse, get?_parse, diagnostics_ownLog, hlast number]

end Report

namespace Command

/-- Read the verdicts from a captured log. -/
def withLog (path : String) : Command → Command
  | ssa command => ssa { command with decisions := some path }
  | inline command => inline { command with input := some path }

variable {host : Host} {path other log otherLog : String}

theorem report_decisions (command : SsaCommand) (dump : Dump) (hpath : host.text path = .ok log) :
    { command with decisions := some path }.report host dump =
      pure (.ok (if command.noDecisions then ∅ else Report.parse log)) := by
  by_cases hnone : command.noDecisions = true
  · simp [SsaCommand.report, hnone]
  · simp [SsaCommand.report, hnone, hpath, Except.map, Except.mapError]

/-- A command uses of its log only the report. -/
theorem run_withLog_congr (command : Command) (hpath : host.text path = .ok log)
    (hother : host.text other = .ok otherLog) (hreport : Report.parse log = Report.parse otherLog) :
    (command.withLog path).run host = (command.withLog other).run host := by
  cases command with
  | ssa command =>
      have hsame : ∀ dump, { command with decisions := some path }.report host dump =
          { command with decisions := some other }.report host dump := fun dump => by
        rw [report_decisions command dump hpath, report_decisions command dump hother, hreport]
      simp only [withLog, run, SsaCommand.run, hsame]
      rfl
  | inline command =>
      simp only [withLog, run, InlineCommand.run, InlineCommand.report, hpath, hother]
      simp only [Except.map, Except.mapError, hreport]
      rfl

/-- What is printed of a log does not change when the diagnostics of other files are deleted from it,
if the file has the last word in it; and only then is the same report read from it. A diagnostic of another
file is a line that is classified, with a file of another name in front. -/
theorem run_withLog_ownLog (command : Command) (fileName : String)
    (hpath : host.text path = .ok log) (hother : host.text other = .ok (Report.ownLog fileName log)) :
    (Report.parse (Report.ownLog fileName log) = Report.parse log ↔
        Report.HasLastWord fileName log) ∧
      (Report.HasLastWord fileName log →
        (command.withLog other).run host = (command.withLog path).run host) ∧
      ∀ line, Report.isForeign fileName line = true ↔
        (Diagnostic.classify (String.ofList line)).isSome = true ∧
          ∃ file : String, Diagnostic.Names line file.toList ∧ workspaceName file ≠ fileName := by
  refine ⟨Report.parse_ownLog_eq_iff fileName log, fun hlast => ?_, fun _ => Report.isForeign_iff⟩
  exact run_withLog_congr command hother hpath ((Report.parse_ownLog_eq_iff fileName log).mpr hlast)

/-- Two diagnostics of one line number, of another file and of the file itself. -/
def mixedLog : String := "./b.go:5:6: inlining call to g\n./a.go:5:9: inlining call to f\n"

/-- A diagnostic of another file. -/
def foreignLog : String := "./b.go:5:6: inlining call to g\n"

/-- A host with captured logs, and with what is left of them for a file. -/
def capturedHost : Host where
  file path :=
    if path = "mixed.log" then .ok (Text.Utf8.encode mixedLog)
    else if path = "foreign.log" then .ok (Text.Utf8.encode foreignLog)
    else if path = "own.log" then .ok (Text.Utf8.encode "./a.go:5:9: inlining call to f\n")
    else if path = "empty.log" then .ok []
    else .error .missing
  directory := "/work"
  toolchain := {}
  machine := fun _ => .failed "No such file or directory (os error 2)"

theorem run_withLog_mixedLog :
    capturedHost.text "mixed.log" = .ok mixedLog ∧
      capturedHost.text "own.log" = .ok (Report.ownLog "/a.go" mixedLog) ∧
      Report.HasLastWord "/a.go" mixedLog ∧
      ((inline ⟨"a.go", none, none, false⟩).withLog "own.log").run capturedHost =
        ((inline ⟨"a.go", none, none, false⟩).withLog "mixed.log").run capturedHost := by
  have hpath : capturedHost.text "mixed.log" = .ok mixedLog := by decide
  have hother : capturedHost.text "own.log" = .ok (Report.ownLog "/a.go" mixedLog) := by decide
  have hscope := run_withLog_ownLog (inline ⟨"a.go", none, none, false⟩) "/a.go" hpath hother
  have hlast := hscope.1.mp (by decide +kernel)
  exact ⟨hpath, hother, hlast, hscope.2.1 hlast⟩

/-- The verdict of another file is printed as one of the file itself. -/
theorem run_withLog_foreignLog :
    capturedHost.text "foreign.log" = .ok foreignLog ∧
      capturedHost.text "empty.log" = .ok (Report.ownLog (workspaceName "a.go") foreignLog) ∧
      (((inline ⟨"a.go", none, none, false⟩).withLog "foreign.log").run capturedHost).output =
        "5: inlining call to g\n" ∧
      (((inline ⟨"a.go", none, none, false⟩).withLog "empty.log").run capturedHost).output =
        "No inlining decisions for /a.go\n" := by
  decide

end Command

end SsaLens
