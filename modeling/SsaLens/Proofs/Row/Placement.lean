import SsaLens.Proofs.Row.Annotation

/-! # Where verdicts are placed

A listing is annotated row by row, with the lines that were seen in mind. A verdict stands directly
above the first row of its line, so there is at most one for each line. The report counts only at
the lines that the dump names.
-/

namespace SsaLens.Row

/-- The source line that a row is about. -/
def source? : Row → Option UInt32
  | verdict line _ => some line
  | ssa _ line _ => line

/-- The source line that a verdict is given for. -/
def annotated? : Row → Option UInt32
  | verdict line _ => some line
  | ssa .. => none

/-- Every verdict stands directly above a row of its line, and no row before is about that line. -/
def Placed (rows : List Row) : Prop :=
  ∀ front number wording back, rows = front ++ .verdict number wording :: back →
    (∀ row ∈ front, row.source? ≠ some number) ∧
      ∃ index text rest, back = .ssa index (some number) text :: rest

theorem source?_of_annotated? {row : Row} {number : UInt32} (h : row.annotated? = some number) :
    row.source? = some number := by
  cases row with
  | verdict => exact h
  | ssa => exact absurd h (Option.some_ne_none number).symm

theorem Placed.tail {row : Row} {rows : List Row} (h : Placed (row :: rows)) : Placed rows := by
  intro front number wording back heq
  obtain ⟨hfront, hback⟩ := h (row :: front) number wording back (by rw [heq, List.cons_append])
  exact ⟨fun other hother => hfront other (List.mem_cons_of_mem row hother), hback⟩

/-- A line has one verdict at most: before a second one the first would be about the same line. -/
theorem Placed.nodup_annotated {rows : List Row} (h : Placed rows) :
    (rows.filterMap annotated?).Nodup := by
  induction rows with
  | nil => exact List.nodup_nil
  | cons row rows ih =>
      cases hrow : row.annotated? with
      | none =>
          rw [List.filterMap_cons_none hrow]
          exact ih h.tail
      | some number =>
          rw [List.filterMap_cons_some hrow, List.nodup_cons]
          refine ⟨?_, ih h.tail⟩
          intro hmem
          obtain ⟨other, hother, hnumber⟩ := List.mem_filterMap.mp hmem
          cases other with
          | ssa => exact absurd hnumber (Option.some_ne_none number).symm
          | verdict line wording =>
              obtain rfl := Option.some.inj hnumber
              obtain ⟨front, back, hrows⟩ := List.append_of_mem hother
              obtain ⟨hfront, -⟩ := h (row :: front) line wording back (by rw [hrows, List.cons_append])
              exact hfront row List.mem_cons_self (source?_of_annotated? hrow)

/-- A row of the dump may go in front if no verdict for its line comes after it. -/
theorem Placed.ssa_cons {rows : List Row} {index : Nat} {line : Option UInt32} {text : String}
    (h : Placed rows)
    (hline : ∀ number wording, .verdict number wording ∈ rows → line ≠ some number) :
    Placed (.ssa index line text :: rows) := by
  intro front number wording back heq
  cases front with
  | nil => exact absurd (List.cons.inj heq).1 Row.noConfusion
  | cons row front =>
      obtain ⟨rfl, hrows⟩ := List.cons.inj heq
      have hmem : .verdict number wording ∈ rows := by
        rw [hrows]
        exact List.mem_append_right front List.mem_cons_self
      obtain ⟨hfront, hback⟩ := h front number wording back hrows
      exact ⟨List.forall_mem_cons.mpr ⟨hline number wording hmem, hfront⟩, hback⟩

/-- A verdict may go in front together with a row of its line if no other one for it comes after. -/
theorem Placed.verdict_cons {rows : List Row} {index : Nat} {number : UInt32} {text wording : String}
    (h : Placed rows) (hnew : ∀ wording, .verdict number wording ∉ rows) :
    Placed (.verdict number wording :: .ssa index (some number) text :: rows) := by
  have hother : ∀ other said, .verdict other said ∈ rows → some number ≠ some other := by
    intro other said hmem heq
    obtain rfl := Option.some.inj heq
    exact hnew said hmem
  have hrow : Placed (.ssa index (some number) text :: rows) := h.ssa_cons hother
  intro front other said back heq
  cases front with
  | nil =>
      obtain ⟨hverdict, rfl⟩ := List.cons.inj heq
      obtain ⟨rfl, -⟩ := Row.verdict.inj hverdict
      exact ⟨List.forall_mem_nil _, index, text, rows, rfl⟩
  | cons row front =>
      obtain ⟨rfl, hrows⟩ := List.cons.inj heq
      obtain ⟨hfront, hback⟩ := hrow front other said back hrows
      have hmem : .verdict other said ∈ rows := by
        have hlater : .verdict other said ∈ .ssa index (some number) text :: rows := by
          rw [hrows]
          exact List.mem_append_right front List.mem_cons_self
        exact (List.mem_cons.mp hlater).resolve_left Row.noConfusion
      exact ⟨List.forall_mem_cons.mpr ⟨hother other said hmem, hfront⟩, hback⟩

variable {report : Report} {index : Nat} {seen : List UInt32}

/-- Annotated rows are placed, whatever line numbers were seen before them. -/
theorem placed_annotateFrom (dump : List String) :
    Placed (annotateFrom report index seen dump) := by
  induction dump generalizing index seen with
  | nil =>
      intro front number wording back heq
      exact absurd heq.symm (List.append_ne_nil_of_right_ne_nil front (List.cons_ne_nil _ _))
  | cons text rest ih =>
      rcases annotateFrom_cons report index seen text rest with
        ⟨number, verdict, -, -, -, hrows⟩ | ⟨hold, hrows⟩
      · rw [hrows]
        apply ih.verdict_cons
        -- from here on the line counts as seen
        intro wording hmem
        exact (verdict_mem_annotateFrom_iff.mp hmem).1 List.mem_cons_self
      · rw [hrows]
        apply ih.ssa_cons
        intro number wording hmem hline
        obtain ⟨hfresh, -, verdict, hfound, -⟩ := verdict_mem_annotateFrom_iff.mp hmem
        rcases hold number hline with hseen | hnone
        · exact hfresh hseen
        · exact absurd (hfound.symm.trans hnone) (Option.some_ne_none verdict)

/-- Reports that agree at the lines of a dump annotate it alike. -/
theorem annotateFrom_congr {other : Report} {dump : List String}
    (h : ∀ text ∈ dump, ∀ number, sourceLine? text = some number →
      other.get? number = report.get? number) :
    annotateFrom other index seen dump = annotateFrom report index seen dump := by
  induction dump generalizing index seen with
  | nil => rfl
  | cons text rest ih =>
      obtain ⟨htext, hrest⟩ := List.forall_mem_cons.mp h
      have hfound : ((sourceLine? text).filter (!seen.contains ·)).bind
            (fun number => (other.get? number).map (number, ·)) =
          ((sourceLine? text).filter (!seen.contains ·)).bind
            (fun number => (report.get? number).map (number, ·)) := by
        apply Option.bind_congr
        intro number hnumber
        rw [htext number (Option.filter_eq_some_iff.mp hnumber).1]
      simp only [annotateFrom, hfound, ih hrest]

/-- An annotated listing has the rows of the dump in their order, with the lines that they name, and
the verdicts of those lines, each once and directly above the first row of its line. What the report
says of other lines does not matter, and without its verdicts the listing is that of the empty
report. -/
theorem annotated_once (dump : List String) (report : Report) :
    let rows := annotate dump report
    (rows.filter isSsa =
        dump.zipIdx.map fun (text, index) => .ssa index (sourceLine? text) text) ∧
      (∀ number wording, .verdict number wording ∈ rows ↔
        (∃ text ∈ dump, sourceLine? text = some number) ∧
          ∃ verdict, report.get? number = some verdict ∧ wording = verdict.describe) ∧
      (rows.filterMap annotated?).Nodup ∧
      Placed rows ∧
      (∀ other : Report, (∀ text ∈ dump, ∀ number, sourceLine? text = some number →
        other.get? number = report.get? number) → annotate dump other = rows) ∧
      rows.filter isSsa = annotate dump ∅ := by
  intro rows
  have hplaced : Placed rows := placed_annotateFrom dump
  refine ⟨filter_isSsa_annotateFrom dump, fun _ _ => verdict_mem_annotate_iff,
    hplaced.nodup_annotated, hplaced, ?_, filter_isSsa_annotate dump report⟩
  intro other hagree
  exact annotateFrom_congr hagree

/-! ## A listing with a line that comes back -/

/-- A dump in which line 10 comes back after line 11, and a row without a line. -/
def returningDump : List String := ["v1 (10) a", "b1:", "v2 (11) b", "v3 ( 10 ) c", "v4 (12) d"]

def returningReport : Report :=
  .ofEntries [(10, .inlinedCall "f"), (11, .cannotInline "g" "recursive" none), (40, .inlinedCall "h")]

theorem annotated_once_returning :
    annotate returningDump returningReport =
        [.verdict 10 "inlining call to f", .ssa 0 (some 10) "v1 (10) a", .ssa 1 none "b1:",
          .verdict 11 "cannot inline g: recursive", .ssa 2 (some 11) "v2 (11) b",
          .ssa 3 (some 10) "v3 ( 10 ) c", .ssa 4 (some 12) "v4 (12) d"] ∧
      (∀ text ∈ returningDump, ∀ number, sourceLine? text = some number →
        (returningReport.erase 40).get? number = returningReport.get? number) ∧
      annotate returningDump (returningReport.erase 40) = annotate returningDump returningReport := by
  have hrows : annotate returningDump returningReport =
      [.verdict 10 "inlining call to f", .ssa 0 (some 10) "v1 (10) a", .ssa 1 none "b1:",
        .verdict 11 "cannot inline g: recursive", .ssa 2 (some 11) "v2 (11) b",
        .ssa 3 (some 10) "v3 ( 10 ) c", .ssa 4 (some 12) "v4 (12) d"] := by decide
  have hagree : ∀ text ∈ returningDump, ∀ number, sourceLine? text = some number →
      (returningReport.erase 40).get? number = returningReport.get? number := by
    intro text htext number hline
    have hnames : ∀ text ∈ returningDump, sourceLine? text ≠ some 40 := by decide
    have hne : ¬ 40 = number := fun heq => hnames text htext (heq ▸ hline)
    rw [SortedMap.get?_erase, if_neg hne]
  obtain ⟨-, -, -, -, hother, -⟩ := annotated_once returningDump returningReport
  exact ⟨hrows, hagree, hother _ hagree⟩

end SsaLens.Row
