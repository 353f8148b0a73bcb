import SsaLens.Row

/-! # The verdicts of an annotated listing

A verdict is put into a listing if the report has it and a row of the dump is of its line. The lines
that were seen before get no verdict. Without its verdicts a listing is that of the empty report.
-/

namespace SsaLens.Row

variable {report : Report} {index : Nat} {seen : List UInt32} {number : UInt32} {text : String}
  {rest : List String}

theorem annotateFrom_cons_of_found {verdict : Verdict} (hline : sourceLine? text = some number)
    (hfresh : number ∉ seen) (hfound : report.get? number = some verdict) :
    annotateFrom report index seen (text :: rest) =
      .verdict number verdict.describe :: .ssa index (some number) text ::
        annotateFrom report (index + 1) (number :: seen) rest := by
  simp [annotateFrom, hline, Option.filter_some, hfresh, hfound]

theorem annotateFrom_cons_of_not_found
    (h : ∀ number, sourceLine? text = some number → number ∈ seen ∨ report.get? number = none) :
    annotateFrom report index seen (text :: rest) =
      .ssa index (sourceLine? text) text :: annotateFrom report (index + 1) seen rest := by
  cases hline : sourceLine? text with
  | none => simp [annotateFrom, hline]
  | some number =>
      rcases h number hline with hseen | hnone
      · simp [annotateFrom, hline, Option.filter_some, hseen]
      · by_cases hseen : number ∈ seen <;>
          simp [annotateFrom, hline, Option.filter_some, hseen, hnone]

/-- What one row of a dump becomes: a verdict and the row if the row is the first one of a line that
the report has, and else the row alone. -/
theorem annotateFrom_cons (report : Report) (index : Nat) (seen : List UInt32) (text : String)
    (rest : List String) :
    (∃ number verdict, sourceLine? text = some number ∧ number ∉ seen ∧
        report.get? number = some verdict ∧
        annotateFrom report index seen (text :: rest) =
          .verdict number verdict.describe :: .ssa index (some number) text ::
            annotateFrom report (index + 1) (number :: seen) rest) ∨
      ((∀ number, sourceLine? text = some number → number ∈ seen ∨ report.get? number = none) ∧
        annotateFrom report index seen (text :: rest) =
          .ssa index (sourceLine? text) text :: annotateFrom report (index + 1) seen rest) := by
  by_cases hnew : ∃ number verdict, sourceLine? text = some number ∧ number ∉ seen ∧
      report.get? number = some verdict
  · obtain ⟨number, verdict, hline, hfresh, hfound⟩ := hnew
    exact Or.inl ⟨number, verdict, hline, hfresh, hfound,
      annotateFrom_cons_of_found hline hfresh hfound⟩
  · have hold : ∀ number, sourceLine? text = some number →
        number ∈ seen ∨ report.get? number = none := by
      intro number hline
      by_cases hfresh : number ∈ seen
      · exact Or.inl hfresh
      · cases hfound : report.get? number with
        | none => exact Or.inr rfl
        | some verdict => exact absurd ⟨number, verdict, hline, hfresh, hfound⟩ hnew
    exact Or.inr ⟨hold, annotateFrom_cons_of_not_found hold⟩

/-- The rows of the dump in a listing name their source lines. -/
theorem line_of_mem_annotateFrom {position : Nat} {line : Option UInt32} {row : String}
    {dump : List String} (h : .ssa position line row ∈ annotateFrom report index seen dump) :
    line = sourceLine? row := by
  induction dump generalizing index seen with
  | nil => exact absurd h List.not_mem_nil
  | cons text rest ih =>
      simp only [annotateFrom] at h
      split at h
      · simp only [List.mem_cons, reduceCtorEq, false_or, ssa.injEq] at h
        rcases h with ⟨-, rfl, rfl⟩ | h
        · rfl
        · exact ih h
      · simp only [List.mem_cons, ssa.injEq] at h
        rcases h with ⟨-, rfl, rfl⟩ | h
        · rfl
        · exact ih h

/-- The verdicts in a listing. -/
theorem verdict_mem_annotateFrom_iff {wording : String} {dump : List String} :
    .verdict number wording ∈ annotateFrom report index seen dump ↔
      number ∉ seen ∧ (∃ text ∈ dump, sourceLine? text = some number) ∧
        ∃ verdict, report.get? number = some verdict ∧ wording = verdict.describe := by
  induction dump generalizing index seen with
  | nil => simp [annotateFrom]
  | cons text rest ih =>
      rcases annotateFrom_cons report index seen text rest with
        ⟨line, verdict, hline, hfresh, hfound, hrows⟩ | ⟨hold, hrows⟩
      · rw [hrows]
        by_cases heq : number = line
        · -- later rows of the line get no verdict
          subst heq
          simp [ih, hline, hfresh, hfound]
        · simp [ih, hline, heq, Ne.symm heq]
      · rw [hrows]
        simp only [List.mem_cons, reduceCtorEq, false_or, ih]
        constructor
        · rintro ⟨hfresh, ⟨row, hrow, hline⟩, hfound⟩
          exact ⟨hfresh, ⟨row, Or.inr hrow, hline⟩, hfound⟩
        · rintro ⟨hfresh, ⟨row, rfl | hrow, hline⟩, verdict, hfound, hwording⟩
          · rcases hold number hline with hseen | hnone
            · exact absurd hseen hfresh
            · exact absurd (hfound.symm.trans hnone) (Option.some_ne_none verdict)
          · exact ⟨hfresh, ⟨row, hrow, hline⟩, verdict, hfound, hwording⟩

/-- A verdict stands among the rows exactly if a row comes from its line and a decision was made there. -/
theorem verdict_mem_annotate_iff {wording : String} {dump : List String} :
    .verdict number wording ∈ annotate dump report ↔
      (∃ text ∈ dump, sourceLine? text = some number) ∧
        ∃ verdict, report.get? number = some verdict ∧ wording = verdict.describe := by
  rw [annotate, verdict_mem_annotateFrom_iff]
  simp

/-- The rows of the dump in a listing, with their positions, whatever the report says. -/
theorem filter_isSsa_annotateFrom (dump : List String) :
    (annotateFrom report index seen dump).filter isSsa =
      (dump.zipIdx index).map fun (text, position) => .ssa position (sourceLine? text) text := by
  induction dump generalizing index seen with
  | nil => rfl
  | cons text rest ih =>
      simp only [annotateFrom, List.zipIdx_cons, List.map_cons]
      split
      next number found _ =>
        rw [List.filter_cons_of_neg Bool.false_ne_true, List.filter_cons_of_pos rfl, ih]
      next => rw [List.filter_cons_of_pos rfl, ih]

/-- Without decisions there are only rows of the dump. -/
theorem isSsa_of_mem_annotate_empty {row : Row} {dump : List String} (h : row ∈ annotate dump ∅) :
    row.isSsa = true := by
  cases row with
  | verdict line wording =>
      obtain ⟨-, verdict, hfound, -⟩ := verdict_mem_annotate_iff.mp h
      exact absurd hfound (Option.some_ne_none verdict).symm
  | ssa => rfl

/-- Without its verdicts an annotated listing is the one that no decision was made for. -/
theorem filter_isSsa_annotate (dump : List String) (report : Report) :
    (annotate dump report).filter isSsa = annotate dump ∅ := by
  have hplain : (annotate dump ∅).filter isSsa = annotate dump ∅ :=
    List.filter_eq_self.mpr fun _ => isSsa_of_mem_annotate_empty
  rw [← hplain, annotate, annotate, filter_isSsa_annotateFrom, filter_isSsa_annotateFrom]

theorem text_mem_of_ssa_mem_annotate {position : Nat} {line : Option UInt32} {row : String}
    {dump : List String} (h : .ssa position line row ∈ annotate dump report) : row ∈ dump := by
  have hssa : .ssa position line row ∈ (annotate dump report).filter isSsa :=
    List.mem_filter.mpr ⟨h, rfl⟩
  rw [annotate, filter_isSsa_annotateFrom] at hssa
  obtain ⟨⟨text, index⟩, hmem, heq⟩ := List.mem_map.mp hssa
  obtain ⟨-, -, rfl⟩ := Row.ssa.inj heq
  exact List.fst_mem_of_mem_zipIdx hmem

end SsaLens.Row
