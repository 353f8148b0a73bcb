import SsaLens.Proofs.Session.Refresh

/-! # Rebuilding or starting anew

A rebuild fails exactly if a new session for the function could not be started, and with the same
error; the session in use is then left as it was. Otherwise it brings the dump that a new session
would begin with. While that dump is of the file the session began with, showing it makes the view of
a new session out of any view before; only the marked line is chosen.
-/

namespace SsaLens

/-- A session in use, with its view and what its last successful rebuild brought. -/
structure LiveSession where
  session : Session
  view : View
  latest : Option Snapshot

namespace LiveSession

/-- What is done with a session in use: an event reaches its view, it is rebuilt, or what the last
successful rebuild brought is sent to the views of a file. -/
inductive Step where
  | event (event : ViewEvent)
  | rebuild (compiler : Compiler)
  | present (fileName : String) (line : Option UInt32)

def perform (live : LiveSession) : Step → LiveSession
  | .event event => { live with view := live.view.apply event }
  | .rebuild compiler =>
      match (live.session.refresh compiler).value with
      | .ok snapshot => { live with latest := some snapshot }
      | .error _ => live
  | .present fileName line =>
      match live.latest with
      | some snapshot => { live with view := live.view.apply (snapshot.event fileName line) }
      | none => live

/-- Do several things one after the other. -/
def performAll (live : LiveSession) (steps : List Step) : LiveSession := steps.foldl perform live

end LiveSession

namespace Session

variable {compiler : Compiler} {directory function : String} {session : Session}
  {error : ExplorerError}

theorem start_eq_error_iff :
    (start compiler directory function).value = .error error ↔
      (compiler.loadDump directory function).value = .error error := by
  rw [start, Traced.value_bind]
  cases (compiler.loadDump directory function).value with
  | error other => simp
  | ok dump => simp only [Traced.value_bind, Traced.value_pure, reduceCtorEq]

theorem refresh_eq_error_iff :
    (session.refresh compiler).value = .error error ↔
      (compiler.loadDump session.directory session.function).value = .error error := by
  simp only [refresh, Traced.value_bind]
  cases (compiler.loadDump session.directory session.function).value with
  | error other => simp
  | ok dump => simp

end Session

namespace LiveSession

variable {live : LiveSession} {compiler : Compiler} {snapshot : Snapshot}

theorem perform_rebuild_of_ok (h : (live.session.refresh compiler).value = .ok snapshot) :
    live.perform (.rebuild compiler) = { live with latest := some snapshot } := by
  rw [perform, h]

theorem perform_rebuild_of_error {error : ExplorerError}
    (h : (live.session.refresh compiler).value = .error error) :
    live.perform (.rebuild compiler) = live := by
  rw [perform, h]

/-- Nothing that is done with a session changes what it rebuilds, or the names of its view. -/
theorem names_perform (live : LiveSession) (step : Step) :
    (live.perform step).session = live.session ∧
      (live.perform step).view.function = live.view.function ∧
      (live.perform step).view.fileName = live.view.fileName := by
  cases step with
  | event event => exact ⟨rfl, live.view.names_apply event⟩
  | rebuild compiler =>
      rw [perform]
      split <;> exact ⟨rfl, rfl, rfl⟩
  | present fileName line =>
      rw [perform]
      split
      next snapshot _ => exact ⟨rfl, live.view.names_apply (snapshot.event fileName line)⟩
      next => exact ⟨rfl, rfl, rfl⟩

theorem names_performAll (live : LiveSession) (steps : List Step) :
    (live.performAll steps).session = live.session ∧
      (live.performAll steps).view.function = live.view.function ∧
      (live.performAll steps).view.fileName = live.view.fileName := by
  induction steps generalizing live with
  | nil => exact ⟨rfl, rfl, rfl⟩
  | cons step rest ih =>
      obtain ⟨hsession, hfunction, hfile⟩ := live.names_perform step
      obtain ⟨hsession', hfunction', hfile'⟩ := ih (live.perform step)
      exact ⟨hsession'.trans hsession, hfunction'.trans hfunction, hfile'.trans hfile⟩

/-- A snapshot leaves nothing of the view it is shown in, but the names. -/
theorem apply_event (view : View) (snapshot : Snapshot) (line : Option UInt32) :
    view.concerns (snapshot.event view.fileName line) = true ∧
      view.apply (snapshot.event view.fileName line) =
        View.showing view.function view.fileName (snapshot.dump.rows, snapshot.report) line := by
  have hconcerns : view.concerns (snapshot.event view.fileName line) = true :=
    beq_self_eq_true view.fileName
  refine ⟨hconcerns, ?_⟩
  rw [View.apply.eq_def, if_pos hconcerns]
  rfl

/-- What a rebuild does to a session in use, and what a new session would be, at any later time. -/
theorem rebuild_agrees_with_start {first : Compiler} {directory function : String}
    {session : Session} {opened : View}
    (hstart : (Session.start first directory function).value = .ok (session, opened))
    (steps : List Step) (later : Compiler) :
    let live := performAll ⟨session, opened, none⟩ steps
    let restarted := (Session.start later directory function).value
    (∀ error, (live.session.refresh later).value = .error error ↔ restarted = .error error) ∧
      (∀ error, restarted = .error error → live.perform (.rebuild later) = live) ∧
      ∀ again fresh, restarted = .ok (again, fresh) →
        ∃ snapshot, (live.session.refresh later).value = .ok snapshot ∧
          live.perform (.rebuild later) = { live with latest := some snapshot } ∧
          (fresh.dump = snapshot.dump.rows ∧ fresh.fileName = snapshot.dump.fileName) ∧
          (∀ line, live.view.concerns (snapshot.event session.fileName line) = true) ∧
          (snapshot.dump.fileName = session.fileName →
            snapshot.report = fresh.report ∧ again = session ∧
              ∀ line, live.view.apply (snapshot.event session.fileName line) =
                { fresh with highlight := line }) := by
  intro live restarted
  obtain ⟨dump, -, rfl, rfl⟩ := Session.start_eq_ok_iff.mp hstart
  obtain ⟨hsession, hfunction, hfile⟩ := names_performAll _ steps
  change live.session = ⟨directory, function, dump.fileName⟩ at hsession
  change live.view.function = function at hfunction
  change live.view.fileName = dump.fileName at hfile
  have hfails : ∀ error,
      (live.session.refresh later).value = .error error ↔ restarted = .error error := by
    intro error
    rw [Session.refresh_eq_error_iff, hsession, Session.start_eq_error_iff]
  refine ⟨hfails, fun error herror => perform_rebuild_of_error ((hfails error).mpr herror), ?_⟩
  intro again fresh hagain
  obtain ⟨found, hfound, rfl, rfl⟩ := Session.start_eq_ok_iff.mp hagain
  let snapshot : Snapshot := ⟨found, (later.loadReport directory dump.fileName).value⟩
  have hrefresh : (live.session.refresh later).value = .ok snapshot := by
    rw [Session.refresh_eq_ok_iff, hsession]
    exact ⟨hfound, rfl⟩
  refine ⟨snapshot, hrefresh, perform_rebuild_of_ok hrefresh, ⟨rfl, rfl⟩, ?_, ?_⟩
  · intro line
    rw [← hfile]
    exact (apply_event live.view snapshot line).1
  · intro hsame
    change found.fileName = dump.fileName at hsame
    have hreport : snapshot.report = (later.loadReport directory found.fileName).value := by
      rw [hsame]
    refine ⟨hreport, by rw [hsame], fun line => ?_⟩
    change live.view.apply (snapshot.event dump.fileName line) = _
    rw [← hfile, (apply_event live.view snapshot line).2, hfunction, hfile, hreport, ← hsame]
    rfl

/-! ## A function that is edited

The listing of a function changes while it stays in its file, after a build that found no listing. -/

/-- A compiler for which the function has another row. -/
def editedFunction : Compiler
  | .dump .. => .printed "genssa Foo\n# ./a.go\nv1 (6) b\ndumped SSA" 0
  | .report .. => .printed "./a.go:6:9: inlining call to helper\n" 0

def editedReport : Report := Report.parse "./a.go:6:9: inlining call to helper\n"

/-- An event and a failed rebuild come first. -/
def editedSteps : List Step :=
  [.event (.highlight 5 "/a.go"), .rebuild fun _ => .unstartable "go not found",
    .present "/a.go" none]

theorem rebuild_agrees_with_start_edited :
    let live := performAll ⟨Session.fooSession, Session.fooView, none⟩ editedSteps
    (Session.start (Session.functionIn "/a.go") "/work" "pkg.Foo").value =
        .ok (Session.fooSession, Session.fooView) ∧
      live.view.highlight = some 5 ∧
      ∃ snapshot, (live.session.refresh editedFunction).value = .ok snapshot ∧
        live.view.apply (snapshot.event "/a.go" (some 6)) =
          View.showing "pkg.Foo" "/a.go" (["v1 (6) b"], editedReport) (some 6) := by
  refine ⟨Session.start_functionIn, by decide, ?_⟩
  have hagain : (Session.start editedFunction "/work" "pkg.Foo").value = .ok (Session.fooSession,
      View.ofDump "pkg.Foo" ⟨["v1 (6) b"], "/a.go"⟩ editedReport) :=
    Session.start_eq_ok_iff.mpr ⟨⟨["v1 (6) b"], "/a.go"⟩, rfl, rfl, by decide⟩
  obtain ⟨-, -, hfresh⟩ :=
    rebuild_agrees_with_start Session.start_functionIn editedSteps editedFunction
  obtain ⟨snapshot, hrefresh, -, ⟨-, hfile⟩, -, hsame⟩ := hfresh _ _ hagain
  exact ⟨snapshot, hrefresh, (hsame hfile.symm).2.2 (some 6)⟩

end LiveSession

end SsaLens
