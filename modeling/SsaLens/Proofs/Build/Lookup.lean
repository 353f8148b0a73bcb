import SsaLens.Build

/-! # What look-ups find

A dump is looked for in what its build prints, and a report is read from what its build prints. In
an empty directory nothing is built.
-/

namespace SsaLens

/-- The report that a build makes: what it prints is read, and a failure makes an empty one. -/
def Outcome.report : Outcome → Report
  | printed output _ => Report.parse output
  | unstartable _ | crashed _ => ∅

/-- The dump that a build makes: it is looked for in what is printed, and a build that cannot be
started has printed nothing. -/
def Outcome.dump (function : String) : Outcome → Except ExplorerError Dump
  | printed output _ => Compiler.loadDump.found function output
  | unstartable _ => .error (.notFound function)
  | crashed reason => .error (.toolchain reason)

namespace Compiler

variable {compiler : Compiler} {directory function fileName output : String} {status : Nat}

theorem extract_empty (identifier : String) : Dump.extract "" identifier = none := by
  have hmarker : Text.split? (Dump.opening ++ Symbol.bareChars identifier.toList) [] = none :=
    if_neg (List.append_ne_nil_of_left_ne_nil (by decide) _)
  rw [Dump.extract, String.toList_empty, Dump.region?, hmarker]
  rfl

/-- With a directory, the dump is read from the build of its function. -/
theorem value_loadDump (hdirectory : directory ≠ "") :
    (compiler.loadDump directory function).value =
      (compiler (.dump directory function)).dump function := by
  rw [loadDump, if_neg hdirectory]
  simp only [Traced.value_bind, run]
  cases compiler (.dump directory function) with
  | unstartable reason =>
      rw [Traced.value_pure, loadDump.found, extract_empty]
      rfl
  | printed | crashed => rfl

/-- With a directory, loading a dump starts one build. -/
theorem builds_loadDump (hdirectory : directory ≠ "") :
    (compiler.loadDump directory function).builds =
      [(.dump directory function, compiler (.dump directory function))] := by
  rw [loadDump, if_neg hdirectory]
  simp only [Traced.builds_bind, run]
  cases compiler (.dump directory function) <;> rfl

/-- With a directory and a file name, loading a report starts one build. -/
theorem builds_loadReport (hdirectory : directory ≠ "") (hfileName : fileName ≠ "") :
    (compiler.loadReport directory fileName).builds =
      [(.report directory fileName, compiler (.report directory fileName))] := by
  rw [loadReport, if_neg (not_or.mpr ⟨hdirectory, hfileName⟩)]
  simp only [Traced.builds_bind, run]
  cases compiler (.report directory fileName) <;> rfl

/-- With a directory and a file name, the report is read from the build of the file. -/
theorem value_loadReport (hdirectory : directory ≠ "") (hfileName : fileName ≠ "") :
    (compiler.loadReport directory fileName).value =
      (compiler (.report directory fileName)).report := by
  rw [loadReport, if_neg (not_or.mpr ⟨hdirectory, hfileName⟩)]
  simp only [Traced.value_bind, run]
  cases compiler (.report directory fileName) <;> rfl

/-- A dump is looked for in what its build printed, whatever the exit status is. -/
theorem loadDump_of_printed (hdirectory : directory ≠ "")
    (h : compiler (.dump directory function) = .printed output status) :
    compiler.loadDump directory function =
      ⟨loadDump.found function output, [(.dump directory function, .printed output status)]⟩ := by
  rw [loadDump, if_neg hdirectory]
  simp only [run, h]
  rfl

/-- A report is parsed from what its build printed, whatever the exit status is. -/
theorem loadReport_of_printed (hdirectory : directory ≠ "") (hfileName : fileName ≠ "")
    (h : compiler (.report directory fileName) = .printed output status) :
    compiler.loadReport directory fileName =
      ⟨Report.parse output, [(.report directory fileName, .printed output status)]⟩ := by
  rw [loadReport, if_neg (not_or.mpr ⟨hdirectory, hfileName⟩)]
  simp only [run, h]
  rfl

/-- A dump is found exactly if it can be extracted from the output. -/
theorem found_eq_ok_iff {dump : Dump} :
    loadDump.found function output = .ok dump ↔ Dump.extract output function = some dump := by
  unfold loadDump.found
  cases Dump.extract output function <;> simp

/-- A dump that is found was printed by its build, in a directory that is not empty. -/
theorem printed_of_loadDump {dump : Dump}
    (h : (compiler.loadDump directory function).value = .ok dump) :
    directory ≠ "" ∧ ∃ output status, compiler (.dump directory function) = .printed output status ∧
      Dump.extract output function = some dump := by
  by_cases hdirectory : directory = ""
  · simp [loadDump, hdirectory] at h
  refine ⟨hdirectory, ?_⟩
  rw [value_loadDump hdirectory] at h
  cases houtcome : compiler (.dump directory function) with
  | crashed reason | unstartable reason => simp [houtcome, Outcome.dump] at h
  | printed output status =>
      rw [houtcome] at h
      exact ⟨output, status, rfl, found_eq_ok_iff.mp h⟩

end Compiler

end SsaLens
