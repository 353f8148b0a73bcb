import SsaLens.Proofs.Session.Restart

/-! # Builds and failures of a session

A dump is withheld for one of four causes, and each is told by its own error. Only a function whose
dump is found has its file's report built, and a report that cannot be had is an empty one. A session
that goes on builds both anew each time, whether they succeed or not.
-/

namespace SsaLens

/-- Why a function has no dump, and the error that tells it. A build that cannot be started counts as
one that printed nothing of the function. -/
inductive Withheld (compiler : Compiler) (directory function : String) : ExplorerError → Prop
  | noWorkspace (hdirectory : directory = "") : Withheld compiler directory function .noWorkspace
  | crashed {reason : String} (hdirectory : directory ≠ "")
      (h : compiler (.dump directory function) = .crashed reason) :
      Withheld compiler directory function (.toolchain reason)
  | unstartable {reason : String} (hdirectory : directory ≠ "")
      (h : compiler (.dump directory function) = .unstartable reason) :
      Withheld compiler directory function (.notFound function)
  | missing {output : String} {status : Nat} (hdirectory : directory ≠ "")
      (h : compiler (.dump directory function) = .printed output status)
      (hextract : Dump.extract output function = none) :
      Withheld compiler directory function (.notFound function)

namespace Compiler

variable {compiler : Compiler} {directory function : String} {error : ExplorerError}

/-- A build with how it ends. -/
def ended (compiler : Compiler) (build : Build) : Build × Outcome := (build, compiler build)

theorem found_eq_error_iff {output : String} :
    loadDump.found function output = .error error ↔
      Dump.extract output function = none ∧ .notFound function = error := by
  unfold loadDump.found
  cases Dump.extract output function <;> simp

theorem withheld_of_dump (hdirectory : directory ≠ "")
    (h : (compiler (.dump directory function)).dump function = .error error) :
    Withheld compiler directory function error := by
  cases houtcome : compiler (.dump directory function) with
  | printed output status =>
      rw [houtcome] at h
      obtain ⟨hextract, rfl⟩ := found_eq_error_iff.mp h
      exact .missing hdirectory houtcome hextract
  | unstartable reason =>
      rw [houtcome] at h
      obtain rfl := Except.error.inj h
      exact .unstartable hdirectory houtcome
  | crashed reason =>
      rw [houtcome] at h
      obtain rfl := Except.error.inj h
      exact .crashed hdirectory houtcome

/-- A dump fails to load exactly where the compiler withholds it. -/
theorem value_loadDump_eq_error_iff :
    (compiler.loadDump directory function).value = .error error ↔
      Withheld compiler directory function error := by
  constructor
  · intro h
    by_cases hdirectory : directory = ""
    · rw [loadDump, if_pos hdirectory] at h
      obtain rfl := Except.error.inj h
      exact .noWorkspace hdirectory
    · rw [value_loadDump hdirectory] at h
      exact withheld_of_dump hdirectory h
  · intro h
    cases h with
    | noWorkspace hdirectory => rw [loadDump, if_pos hdirectory, Traced.value_pure]
    | crashed hdirectory h | unstartable hdirectory h => rw [value_loadDump hdirectory, h, Outcome.dump]
    | missing hdirectory h hextract =>
        rw [value_loadDump hdirectory, h, Outcome.dump]
        exact found_eq_error_iff.mpr ⟨hextract, rfl⟩

end Compiler

namespace Session

variable {compiler first later : Compiler} {directory function : String} {error : ExplorerError}
  {session : Session} {opened : View}

/-- Without a dump no report is built. -/
theorem builds_start_of_error (h : (start compiler directory function).value = .error error) :
    (start compiler directory function).builds =
      if directory = "" then [] else [compiler.ended (.dump directory function)] := by
  have hdump := start_eq_error_iff.mp h
  rw [start, Traced.builds_bind, hdump, Traced.builds_pure, List.append_nil]
  split
  next hdirectory => rw [Compiler.loadDump, if_pos hdirectory, Traced.builds_pure]
  next hdirectory =>
    rw [Compiler.builds_loadDump hdirectory]
    rfl

/-- A session that was started knows the file of its dump, in a directory that is not empty. -/
theorem named_of_start (h : (start first directory function).value = .ok (session, opened)) :
    directory ≠ "" ∧ session = ⟨directory, function, opened.fileName⟩ ∧ opened.fileName ≠ "" := by
  obtain ⟨dump, hdump, rfl, rfl⟩ := start_eq_ok_iff.mp h
  obtain ⟨hdirectory, output, status, -, hextract⟩ := Compiler.printed_of_loadDump hdump
  exact ⟨hdirectory, rfl, Dump.fileName_ne_empty hextract⟩

theorem builds_start_of_ok (h : (start compiler directory function).value = .ok (session, opened)) :
    (start compiler directory function).builds =
      [compiler.ended (.dump directory function),
        compiler.ended (.report directory opened.fileName)] := by
  obtain ⟨hdirectory, -, hfileName⟩ := named_of_start h
  obtain ⟨dump, hdump, rfl, rfl⟩ := start_eq_ok_iff.mp h
  have hreport : (compiler.loadReport directory dump.fileName).builds = _ :=
    Compiler.builds_loadReport hdirectory hfileName
  simp only [start, Traced.builds_bind, hdump, Compiler.builds_loadDump hdirectory]
  rw [Traced.builds_pure, List.append_nil]
  exact congrArg (_ :: ·) hreport

theorem builds_refresh (compiler : Compiler) (session : Session) :
    (session.refresh compiler).builds =
      (compiler.loadDump session.directory session.function).builds ++
        (compiler.loadReport session.directory session.fileName).builds := by
  simp only [refresh, Traced.builds_bind]
  cases (compiler.loadDump session.directory session.function).value <;> simp

theorem builds_refresh_of_start
    (h : (start first directory function).value = .ok (session, opened)) (later : Compiler) :
    (session.refresh later).builds =
      [later.ended (.dump directory function), later.ended (.report directory opened.fileName)] := by
  obtain ⟨hdirectory, rfl, hfileName⟩ := named_of_start h
  rw [builds_refresh, Compiler.builds_loadDump hdirectory,
    Compiler.builds_loadReport hdirectory hfileName]
  rfl

/-- What is built for a session and how it fails, when it is started and whenever it goes on. The
builds of one that goes on may be made in any order. -/
theorem start_and_refresh_traced (compiler : Compiler) (directory function : String) :
    let started := start compiler directory function
    (∀ error, started.value = .error error ↔ Withheld compiler directory function error) ∧
      (∀ error, started.value = .error error →
        started.builds =
          if directory = "" then [] else [compiler.ended (.dump directory function)]) ∧
      (∀ session opened, started.value = .ok (session, opened) →
        (∃ output status dump, compiler (.dump directory function) = .printed output status ∧
          Dump.extract output function = some dump ∧
          session = ⟨directory, function, dump.fileName⟩ ∧
          opened = View.ofDump function dump (compiler (.report directory dump.fileName)).report) ∧
        started.builds = [compiler.ended (.dump directory function),
          compiler.ended (.report directory session.fileName)] ∧
        ((∀ output status, compiler (.report directory session.fileName) ≠ .printed output status) →
          opened.report = ∅) ∧
        ∀ later, (∀ error, (session.refresh later).value = .error error ↔
            Withheld later directory function error) ∧
          (session.refresh later).builds.Perm [later.ended (.dump directory function),
            later.ended (.report directory session.fileName)]) ∧
      ∀ session : Session, session.directory = "" →
        (session.refresh compiler).value = .error .noWorkspace ∧
          (session.refresh compiler).builds = [] := by
  intro started
  refine ⟨fun error => ?_, fun error herror => builds_start_of_error herror,
    fun session opened hok => ?_, fun session hdirectory => ?_⟩
  · exact start_eq_error_iff.trans Compiler.value_loadDump_eq_error_iff
  · obtain ⟨dump, hdump, rfl, rfl⟩ := start_eq_ok_iff.mp hok
    obtain ⟨hdirectory, output, status, hprinted, hextract⟩ := Compiler.printed_of_loadDump hdump
    have hreport : (compiler.loadReport directory dump.fileName).value = _ :=
      Compiler.value_loadReport hdirectory (Dump.fileName_ne_empty hextract)
    rw [hreport] at hok ⊢
    refine ⟨⟨output, status, dump, hprinted, hextract, rfl, rfl⟩, builds_start_of_ok hok,
      fun hunprinted => ?_, fun later => ⟨fun error => ?_, ?_⟩⟩
    · change (compiler (.report directory dump.fileName)).report = ∅
      cases houtcome : compiler (.report directory dump.fileName) with
      | printed output status => exact absurd houtcome (hunprinted output status)
      | unstartable | crashed => rfl
    · exact refresh_eq_error_iff.trans Compiler.value_loadDump_eq_error_iff
    · exact .of_eq (builds_refresh_of_start hok later)
  · constructor
    · rw [refresh_eq_error_iff, Compiler.value_loadDump_eq_error_iff]
      exact .noWorkspace hdirectory
    · rw [builds_refresh, Compiler.loadDump, Compiler.loadReport, if_pos hdirectory,
        if_pos (Or.inl hdirectory)]
      rfl

end Session

end SsaLens
