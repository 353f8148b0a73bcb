import SsaLens.Proofs.Build.Lookup
import SsaLens.Proofs.Dump.FileName
import SsaLens.Proofs.Row.Annotation
import SsaLens.Proofs.View.Events
import SsaLens.Session

/-! # The file of a snapshot

A session asks for the report of the file that its first dump named. The verdicts of a later snapshot
are therefore about that file, and they are sure to be about the file of its dump only if the function
is still there.
-/

namespace SsaLens

/-- A compiler with other reports of the files. -/
def Compiler.withReports (compiler : Compiler) (reports : String → Outcome) : Compiler
  | .dump directory function => compiler (.dump directory function)
  | .report _ fileName => reports fileName

/-- The verdicts of a snapshot are those of the file that its dump names. -/
def Snapshot.OfOneFile (snapshot : Snapshot) (compiler : Compiler) (directory : String) : Prop :=
  snapshot.report = (compiler.loadReport directory snapshot.dump.fileName).value

namespace Session

variable {compiler first later : Compiler} {directory function : String} {session : Session}
  {opened : View} {snapshot : Snapshot}

theorem start_eq_ok_iff :
    (start compiler directory function).value = .ok (session, opened) ↔
      ∃ dump, (compiler.loadDump directory function).value = .ok dump ∧
        session = ⟨directory, function, dump.fileName⟩ ∧
        opened = View.ofDump function dump (compiler.loadReport directory dump.fileName).value := by
  rw [start, Traced.value_bind]
  cases (compiler.loadDump directory function).value with
  | error error => simp
  | ok dump =>
      simp only [Traced.value_bind, Traced.value_pure, Except.ok.injEq, Prod.mk.injEq]
      constructor
      · rintro ⟨rfl, rfl⟩
        exact ⟨dump, rfl, rfl, rfl⟩
      · rintro ⟨found, rfl, rfl, rfl⟩
        exact ⟨rfl, rfl⟩

/-- A refresh rebuilds the dump of the function, and the report of the file the session remembers. -/
theorem refresh_eq_ok_iff :
    (session.refresh compiler).value = .ok snapshot ↔
      (compiler.loadDump session.directory session.function).value = .ok snapshot.dump ∧
        snapshot.report = (compiler.loadReport session.directory session.fileName).value := by
  obtain ⟨dump, report⟩ := snapshot
  simp only [refresh, Traced.value_bind]
  cases (compiler.loadDump session.directory session.function).value with
  | error error => simp
  | ok found => simp [eq_comm]

/-- Reports that differ for two files: a call in the one is inlined, and nothing is said of the
other. -/
def told (fileName : String) : String → Outcome := fun other =>
  .printed (if other = fileName then "a.go:1:1: inlining call to f" else "") 0

theorem loadReport_told_of_ne {fileName other : String} (h : other ≠ fileName) :
    ((compiler.withReports (told fileName)).loadReport directory other).value = ∅ := by
  by_cases hplace : directory = "" ∨ other = ""
  · rw [Compiler.loadReport, if_pos hplace]
    rfl
  · obtain ⟨hdirectory, hother⟩ := not_or.mp hplace
    have hprinted : (compiler.withReports (told fileName)) (.report directory other) =
        .printed "" 0 := by
      rw [Compiler.withReports, told, if_neg h]
    rw [Compiler.loadReport_of_printed hdirectory hother hprinted]
    rfl

theorem loadReport_told_ne_empty {fileName : String} (hdirectory : directory ≠ "")
    (hfileName : fileName ≠ "") :
    ((compiler.withReports (told fileName)).loadReport directory fileName).value ≠ ∅ := by
  have hprinted : (compiler.withReports (told fileName)) (.report directory fileName) =
      .printed "a.go:1:1: inlining call to f" 0 := by
    rw [Compiler.withReports, told, if_pos rfl]
  have hreport : Report.parse "a.go:1:1: inlining call to f" ≠ ∅ := by decide
  rw [Compiler.loadReport_of_printed hdirectory hfileName hprinted]
  exact hreport

/-- Whatever the reports say, the snapshot is of one file: this is so only if the dump names the file
that is remembered. -/
theorem ofOneFile_iff (h : (session.refresh compiler).value = .ok snapshot) :
    (∀ reports other, (session.refresh (compiler.withReports reports)).value = .ok other →
        other.OfOneFile (compiler.withReports reports) session.directory) ↔
      snapshot.dump.fileName = session.fileName := by
  obtain ⟨hdump, -⟩ := refresh_eq_ok_iff.mp h
  constructor
  · intro hone
    refine Decidable.byContradiction fun hmoved => ?_
    obtain ⟨hdirectory, output, -, -, hextract⟩ := Compiler.printed_of_loadDump hdump
    -- reports in which the two files differ
    let reports := told snapshot.dump.fileName
    let report := ((compiler.withReports reports).loadReport session.directory session.fileName).value
    have hown : report = _ :=
      hone reports ⟨snapshot.dump, report⟩ (refresh_eq_ok_iff.mpr ⟨hdump, rfl⟩)
    have hempty : report = ∅ := loadReport_told_of_ne (Ne.symm hmoved)
    exact loadReport_told_ne_empty hdirectory (Dump.fileName_ne_empty hextract)
      (hown.symm.trans hempty)
  · intro hsame reports other hother
    obtain ⟨hfound, hreport⟩ := refresh_eq_ok_iff.mp hother
    have hdumps : other.dump = snapshot.dump := Except.ok.inj (hfound.symm.trans hdump)
    rw [Snapshot.OfOneFile, hreport, hdumps, hsame]

/-- A first view shows the verdicts of its own file. A later snapshot brings the verdicts of that same
file, whatever events came before, so these are what the view shows then. They are sure to be about the
file of the new dump exactly if that dump still names the file the view began with. -/
theorem snapshot_report (hstart : (start first directory function).value = .ok (session, opened))
    (events : List ViewEvent) (hrefresh : (session.refresh later).value = .ok snapshot)
    (line : Option UInt32) :
    opened.report = (first.loadReport directory opened.fileName).value ∧
      snapshot.report = (later.loadReport directory opened.fileName).value ∧
      (∀ number wording,
        .verdict number wording ∈
            ((opened.applyAll events).apply (snapshot.event session.fileName line)).rows ↔
          (∃ text ∈ snapshot.dump.rows, Row.sourceLine? text = some number) ∧
            ∃ verdict, (later.loadReport directory opened.fileName).value.get? number =
              some verdict ∧ wording = verdict.describe) ∧
      ((∀ reports other, (session.refresh (later.withReports reports)).value = .ok other →
          other.OfOneFile (later.withReports reports) directory) ↔
        snapshot.dump.fileName = opened.fileName) := by
  obtain ⟨dump, hdump, rfl, rfl⟩ := start_eq_ok_iff.mp hstart
  obtain ⟨hfound, hreport⟩ := refresh_eq_ok_iff.mp hrefresh
  refine ⟨rfl, hreport, fun number wording => ?_, ofOneFile_iff hrefresh⟩
  obtain ⟨content, mark, hshown⟩ : ∃ content mark,
      (View.ofDump function dump (first.loadReport directory dump.fileName).value).applyAll events =
        View.showing function dump.fileName content mark :=
    ⟨_, _, View.applyAll_showing function dump.fileName (dump.rows, _) none events⟩
  have hrows : ((View.showing function dump.fileName content mark).apply
      (snapshot.event dump.fileName line)).rows = Row.annotate snapshot.dump.rows snapshot.report := by
    rw [View.apply_showing function dump.fileName content mark rfl]
    rfl
  rw [hshown, hrows, Row.verdict_mem_annotate_iff, hreport]
  rfl

/-! ## A function that moves

A function is first in the file `/a.go`, of which the report says that a call is inlined, and then in
`/b.go`, of which it says nothing. -/

/-- A compiler for which the function is in a file. -/
def functionIn (fileName : String) : Compiler
  | .dump .. => .printed ("genssa Foo\n# ." ++ fileName ++ "\nv1 (5) a\ndumped SSA") 0
  | .report _ other =>
      .printed (if other = "/a.go" then "./a.go:5:9: inlining call to helper\n" else "") 0

def helperReport : Report := Report.parse "./a.go:5:9: inlining call to helper\n"

def fooSession : Session := ⟨"/work", "pkg.Foo", "/a.go"⟩

def fooView : View := View.ofDump "pkg.Foo" ⟨["v1 (5) a"], "/a.go"⟩ helperReport

def movedSnapshot : Snapshot := ⟨⟨["v1 (5) a"], "/b.go"⟩, helperReport⟩

theorem start_functionIn :
    (start (functionIn "/a.go") "/work" "pkg.Foo").value = .ok (fooSession, fooView) :=
  start_eq_ok_iff.mpr ⟨⟨["v1 (5) a"], "/a.go"⟩, rfl, rfl, by decide⟩

theorem refresh_functionIn :
    (fooSession.refresh (functionIn "/b.go")).value = .ok movedSnapshot :=
  refresh_eq_ok_iff.mpr ⟨rfl, by decide⟩

theorem snapshot_report_moved :
    (start (functionIn "/a.go") "/work" "pkg.Foo").value = .ok (fooSession, fooView) ∧
      (fooSession.refresh (functionIn "/b.go")).value = .ok movedSnapshot ∧
      .verdict 5 "inlining call to helper" ∈
        ((fooView.applyAll [.highlight 5 "/a.go"]).apply (movedSnapshot.event "/a.go" none)).rows ∧
      ¬ ∀ reports other, (fooSession.refresh ((functionIn "/b.go").withReports reports)).value =
        .ok other → other.OfOneFile ((functionIn "/b.go").withReports reports) "/work" := by
  obtain ⟨-, -, hverdicts, hone⟩ := snapshot_report start_functionIn [.highlight 5 "/a.go"]
    refresh_functionIn none
  refine ⟨start_functionIn, refresh_functionIn, (hverdicts 5 _).mpr ?_, fun hall => ?_⟩
  · exact ⟨⟨"v1 (5) a", by decide, by decide⟩, .inlinedCall "helper", by decide, by decide⟩
  · exact absurd (hone.mp hall) (by decide)

/-- The verdict of the one file stands above a row of the other. -/
theorem snapshot_of_two_files :
    (start (functionIn "/a.go") "/work" "pkg.Foo").value = .ok (fooSession, fooView) ∧
      (fooSession.refresh (functionIn "/b.go")).value = .ok movedSnapshot ∧
      ¬ movedSnapshot.OfOneFile (functionIn "/b.go") "/work" ∧
      (fooView.apply (movedSnapshot.event "/a.go" none)).rows =
        [.verdict 5 "inlining call to helper", .ssa 0 (some 5) "v1 (5) a"] := by
  refine ⟨start_functionIn, refresh_functionIn, ?_, by decide⟩
  rw [Snapshot.OfOneFile]
  decide

end Session

end SsaLens
