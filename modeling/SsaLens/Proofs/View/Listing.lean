import SsaLens.Proofs.Diagnostic.Parts
import SsaLens.Proofs.Dump.Search
import SsaLens.Proofs.View.Marker

/-! # Printed listings

A listing is printed with one line for each row, and a report with one line for each verdict. None of
them holds a newline, because all texts are cut out of lines of the compiler's output. The marker stands
at the positions that a view highlights, and a listing without its verdicts is that of an empty report.
-/

namespace SsaLens

open Text

/-- A text is made of lines: each of them ends in a newline, and there are no other newlines. -/
def Text.MadeOf (text : String) (lines : List String) : Prop :=
  pieces text.toList = lines.map String.toList ++ [[]]

theorem Text.madeOf_join {lines : List String} (h : ∀ line ∈ lines, '\n' ∉ line.toList) :
    MadeOf (String.join (lines.map (· ++ "\n"))) lines := by
  have hlines : ∀ line ∈ lines.map String.toList, '\n' ∉ line := List.forall_mem_map.mpr h
  rw [MadeOf, Dump.toList_join_lines, ← List.append_nil (written _), pieces_written_append hlines]
  rfl

theorem Text.newline_notMem_decimal (value : Nat) : '\n' ∉ (decimal value).toList := by
  intro hmem
  rw [decimal, String.toList_ofList] at hmem
  exact absurd ((run_numeral value).forall_mem '\n' hmem) (by decide)

/-! ## Printed rows -/

namespace Row

/-- The line that a row is printed in: a remark, or a column for the marker and the text. -/
def line (marked : Bool) : Row → String
  | verdict _ text => "  # " ++ text
  | ssa _ _ text => (if marked then ">" else " ") ++ " " ++ text

theorem print_eq_line (highlight : Option UInt32) (row : Row) :
    print highlight row = row.line (row.isHighlighted highlight) ++ "\n" := by
  cases row with
  | verdict => rfl
  | ssa index source text =>
      rw [print, line]
      split <;> rfl

theorem newline_notMem_line {row : Row} (h : '\n' ∉ row.text.toList) (marked : Bool) :
    '\n' ∉ (row.line marked).toList := by
  cases row with
  | verdict => simpa [line, text] using h
  | ssa => cases marked <;> simpa [line, text] using h

/-- A line begins with the marker exactly if it is one of the dump and marked. -/
theorem head?_line {row : Row} {marked : Bool} :
    (row.line marked).toList.head? = some '>' ↔ row.isSsa = true ∧ marked = true := by
  cases row with
  | verdict => simp [line, isSsa]
  | ssa => cases marked <;> simp [line, isSsa]

theorem isSsa_of_isHighlighted {highlight : Option UInt32} {row : Row}
    (h : row.isHighlighted highlight = true) : row.isSsa = true := by
  cases row with
  | verdict => exact absurd h Bool.false_ne_true
  | ssa => rfl

variable {rows : List Row}

theorem madeOf_printAll (h : ∀ row ∈ rows, '\n' ∉ row.text.toList) (highlight : Option UInt32)
    (showVerdicts : Bool) :
    MadeOf (printAll rows highlight showVerdicts)
      ((rows.filter fun row => row.isSsa || showVerdicts).map fun row =>
        row.line (row.isHighlighted highlight)) := by
  have hprint : printAll rows highlight showVerdicts =
      String.join (((rows.filter fun row => row.isSsa || showVerdicts).map fun row =>
        row.line (row.isHighlighted highlight)).map (· ++ "\n")) := by
    rw [printAll, List.map_map]
    congr 2
    funext row
    exact print_eq_line highlight row
  rw [hprint]
  apply madeOf_join
  intro line hline
  obtain ⟨row, hrow, rfl⟩ := List.mem_map.mp hline
  exact newline_notMem_line (h row (List.mem_of_mem_filter hrow)) _

/-- Verdicts are left out as if the report had none. -/
theorem printAll_annotate (dump : List String) (report : Report) (highlight : Option UInt32) :
    printAll (annotate dump report) highlight false = printAll (annotate dump ∅) highlight true := by
  simp only [printAll, Bool.or_false, Bool.or_true, List.filter_true, filter_isSsa_annotate]

theorem newline_notMem_of_mem_annotate {dump : List String} {report : Report}
    (hdump : ∀ row ∈ dump, '\n' ∉ row.toList)
    (hreport : ∀ entry ∈ report.entries, '\n' ∉ entry.2.describe.toList) :
    ∀ row ∈ annotate dump report, '\n' ∉ row.text.toList := by
  intro row hrow
  cases row with
  | verdict number wording =>
      obtain ⟨-, verdict, hfound, rfl⟩ := verdict_mem_annotate_iff.mp hrow
      exact hreport (number, verdict) (SortedMap.get?_eq_some_iff.mp hfound)
  | ssa index source text => exact hdump text (text_mem_of_ssa_mem_annotate hrow)

end Row

theorem Report.madeOf_text {report : Report} (hne : report.isEmpty = false)
    (h : ∀ entry ∈ report.entries, '\n' ∉ entry.2.describe.toList) (fileName : String) :
    MadeOf (report.text fileName) (report.entries.map fun entry =>
      decimal entry.1.toNat ++ ": " ++ entry.2.describe) := by
  have htext : report.text fileName = String.join ((report.entries.map fun entry =>
      decimal entry.1.toNat ++ ": " ++ entry.2.describe).map (· ++ "\n")) := by
    rw [text, hne, List.map_map]
    rfl
  rw [htext]
  apply madeOf_join
  intro line hline
  obtain ⟨entry, hentry, rfl⟩ := List.mem_map.mp hline
  exact notMem_append (notMem_append (newline_notMem_decimal _) (by decide)) (h entry hentry)

namespace View

/-- A view with a line to be marked, if one is given. -/
def withMark (view : View) : Option UInt32 → View
  | none => view
  | some line => view.marking line

/-- The lines of the rows, with a marker at the highlighted positions. -/
def lines (view : View) : List String :=
  view.rows.zipIdx.map fun (row, position) => row.line (view.highlightedRows.contains position)

theorem withMark_ofDump (function : String) (dump : Dump) (report : Report)
    (mark : Option UInt32) :
    (ofDump function dump report).withMark mark =
      { ofDump function dump report with highlight := mark } := by
  cases mark with
  | none => rfl
  | some line => exact marking_eq _ line

variable {view : View} {position : Nat}

theorem mem_highlightedRows_iff_of_row {row : Row} (h : view.rows[position]? = some row) :
    position ∈ view.highlightedRows ↔ row.isHighlighted view.highlight = true := by
  simp [highlightedRows, List.mk_mem_zipIdx_iff_getElem?, h]

/-- A row is marked where it stands as it would be by itself. -/
theorem lines_eq_map (view : View) :
    view.lines = view.rows.map fun row => row.line (row.isHighlighted view.highlight) := by
  have hmarked : ∀ item ∈ view.rows.zipIdx, item.1.line (view.highlightedRows.contains item.2) =
      item.1.line (item.1.isHighlighted view.highlight) := by
    rintro ⟨row, position⟩ hitem
    have hrow := List.mk_mem_zipIdx_iff_getElem?.mp hitem
    congr 1
    rw [Bool.eq_iff_iff, List.contains_iff_mem]
    exact mem_highlightedRows_iff_of_row hrow
  have hrows := List.map_congr_left hmarked
  rw [lines, hrows]
  conv_rhs => rw [← List.zipIdx_map_fst 0 view.rows, List.map_map]
  rfl

/-- The marker stands at the highlighted rows and no others. -/
theorem head?_of_mem_lines {line : String} (h : view.lines[position]? = some line) :
    line.toList.head? = some '>' ↔ position ∈ view.highlightedRows := by
  rw [lines_eq_map, List.getElem?_map, Option.map_eq_some_iff] at h
  obtain ⟨row, hrow, rfl⟩ := h
  rw [mem_highlightedRows_iff_of_row hrow, Row.head?_line]
  exact ⟨And.right, fun hmarked => ⟨Row.isSsa_of_isHighlighted hmarked, hmarked⟩⟩

theorem filter_zip_lines (view : View) :
    ((view.rows.zip view.lines).filter (·.1.isSsa)).map (·.2) =
      (view.rows.filter Row.isSsa).map fun row => row.line (row.isHighlighted view.highlight) := by
  have hzip : view.rows.zip view.lines =
      view.rows.map fun row => (row, row.line (row.isHighlighted view.highlight)) := by
    rw [lines_eq_map, ← List.zip_map', List.map_id']
  rw [hzip, List.filter_map, List.map_map]
  rfl

/-- A view of what the compiler printed is shown with one line for each row, marked where the view is
highlighted, and without its verdicts with the same lines of the dump, which are those of a view without
a report. A report is shown with one line for each verdict, in the order of their numbers. -/
theorem printed_by_rows {output identifier : String} {dump : Dump}
    (h : Dump.extract output identifier = some dump) (function diagnostics : String)
    (mark : Option UInt32) :
    let report := Report.parse diagnostics
    let view := (ofDump function dump report).withMark mark
    (MadeOf (Row.printAll view.rows mark true) view.lines ∧
        view.lines.length = view.rows.length ∧
        ∀ position line, view.lines[position]? = some line →
          (line.toList.head? = some '>' ↔ position ∈ view.highlightedRows)) ∧
      (MadeOf (Row.printAll view.rows mark false)
          (((view.rows.zip view.lines).filter (·.1.isSsa)).map (·.2)) ∧
        Row.printAll view.rows mark false =
          Row.printAll (Row.annotate dump.rows ∅) mark true) ∧
      (report.isEmpty = false → ∀ fileName, MadeOf (report.text fileName)
        (report.entries.map fun entry =>
          decimal entry.1.toNat ++ ": " ++ entry.2.describe)) ∧
      report.keys.Pairwise (· < ·) := by
  intro report view
  have hreport : ∀ entry ∈ report.entries, '\n' ∉ entry.2.describe.toList := fun entry =>
    Report.newline_notMem_describe
  have hview : view = { ofDump function dump report with highlight := mark } :=
    withMark_ofDump function dump report mark
  have hmark : view.highlight = mark := by rw [hview]
  have hannotated : view.rows = Row.annotate dump.rows report := by
    rw [hview]
    rfl
  have hrows : ∀ row ∈ view.rows, '\n' ∉ row.text.toList := by
    rw [hannotated]
    exact Row.newline_notMem_of_mem_annotate (Dump.newline_notMem_of_extract h) hreport
  refine ⟨⟨?_, by simp [lines], fun _ _ => head?_of_mem_lines⟩, ⟨?_, ?_⟩, ?_, report.keys_ascending⟩
  · rw [lines_eq_map, hmark]
    simpa using Row.madeOf_printAll hrows mark true
  · rw [filter_zip_lines, hmark]
    simpa using Row.madeOf_printAll hrows mark false
  · rw [hannotated]
    exact Row.printAll_annotate dump.rows report mark
  · intro hne fileName
    exact Report.madeOf_text hne hreport fileName

/-! ## A listing with calls -/

/-- A dump whose last row, the second one of line 5, is cut off by its closing. -/
def callOutput : String := "genssa F\n# ./a.go\nv1 (5) call\r\nv2 (6)\nv3 (5) dumped SSA for F"

def callDump : Dump := ⟨["v1 (5) call", "v2 (6)", "v3 (5) "], "/a.go"⟩

def callDiagnostics : String :=
  "./a.go:5:9: inlining call to g\n./a.go:6:1: cannot inline F: a\u2028b: cost 90 exceeds budget 80 \n"

def callReport : Report := .ofEntries
  [(5, .inlinedCall "g"), (6, .cannotInline "F" "a\u2028b: cost 90 exceeds budget 80" (some "90"))]

def callView : View := (ofDump "main.F" callDump callReport).withMark (some 5)

theorem printed_by_rows_call :
    Dump.extract callOutput "main.F" = some callDump ∧
      Report.parse callDiagnostics = callReport ∧
      MadeOf (Row.printAll callView.rows (some 5) true) ["  # inlining call to g", "> v1 (5) call",
        "  # cannot inline F: function too complex: cost 90 exceeds budget 80", "  v2 (6)",
        "> v3 (5) "] ∧
      MadeOf (Row.printAll callView.rows (some 5) false)
        ["> v1 (5) call", "  v2 (6)", "> v3 (5) "] ∧
      MadeOf (callReport.text "/a.go") ["5: inlining call to g",
        "6: cannot inline F: function too complex: cost 90 exceeds budget 80"] := by
  have hdump : Dump.extract callOutput "main.F" = some callDump := by decide +kernel
  have hreport : Report.parse callDiagnostics = callReport := by decide +kernel
  have hprinted := printed_by_rows hdump "main.F" callDiagnostics (some 5)
  rw [hreport] at hprinted
  obtain ⟨⟨hshown, -⟩, ⟨hhidden, -⟩, htext, -⟩ := hprinted
  have hlines : callView.lines = ["  # inlining call to g", "> v1 (5) call",
      "  # cannot inline F: function too complex: cost 90 exceeds budget 80", "  v2 (6)",
      "> v3 (5) "] := by decide
  have hplain : ((callView.rows.zip callView.lines).filter (·.1.isSsa)).map (·.2) =
      ["> v1 (5) call", "  v2 (6)", "> v3 (5) "] := by decide
  have hentries : callReport.entries.map (fun entry =>
      decimal entry.1.toNat ++ ": " ++ entry.2.describe) = ["5: inlining call to g",
        "6: cannot inline F: function too complex: cost 90 exceeds budget 80"] := by decide
  exact ⟨hdump, hreport, hlines ▸ hshown, hplain ▸ hhidden, hentries ▸ htext (by decide) "/a.go"⟩

end View

end SsaLens
