import SsaLens.Proofs.Row.Annotation
import SsaLens.Proofs.Row.Number
import SsaLens.Proofs.View.Events

/-! # The marked rows of a view

When the cursor is on a line, the rows are marked that hold the line in parentheses as it is printed,
whatever else they hold. A row is annotated for its source line, the first of its numbers in
parentheses. A row with blanks in the parentheses, leading zeros or several numbers may therefore be
annotated for one line and marked for others.
-/

namespace SsaLens

open Text

theorem Row.head?_print_ssa (highlight : Option UInt32) (index : Nat) (source : Option UInt32)
    (text : String) :
    (print highlight (.ssa index source text)).toList.head? = some '>' ↔
      isHighlighted highlight (.ssa index source text) = true := by
  cases hmarked : isHighlighted highlight (.ssa index source text) <;> simp [print, hmarked]

namespace View

/-- The view when the cursor moves to a line of its file. -/
def marking (view : View) (line : UInt32) : View := view.apply (.highlight line view.fileName)

theorem marking_eq (view : View) (line : UInt32) :
    view.marking line = { view with highlight := some line } := by
  have hconcerns : view.concerns (.highlight line view.fileName) = true :=
    beq_self_eq_true view.fileName
  rw [marking, apply.eq_def, if_pos hconcerns]

/-- The rows that a line highlights are those that mention it. -/
theorem mem_highlightedRows_marking_iff {view : View} {position index : Nat}
    {source : Option UInt32} {text : String}
    (h : view.rows[position]? = some (.ssa index source text)) (line : UInt32) :
    position ∈ (view.marking line).highlightedRows ↔ Row.mentions text line = true := by
  rw [mem_highlightedRows_iff, marking_eq]
  constructor
  · rintro ⟨_, _, other, _, hrow, hline, hmentions⟩
    obtain rfl := Option.some.inj hline
    obtain ⟨-, -, rfl⟩ := Row.ssa.inj (Option.some.inj (h.symm.trans hrow))
    exact hmentions
  · intro hmentions
    exact ⟨index, source, text, line, h, rfl, hmentions⟩

theorem source_of_row {function : String} {dump : Dump} {report : Report} {events : List ViewEvent}
    {position index : Nat} {source : Option UInt32} {text : String}
    (h : ((ofDump function dump report).applyAll events).rows[position]? =
      some (.ssa index source text)) : source = Row.sourceLine? text := by
  obtain ⟨content, mark, hview⟩ : ∃ content mark, (ofDump function dump report).applyAll events =
      showing function dump.fileName content mark :=
    ⟨_, _, applyAll_showing function dump.fileName (dump.rows, report) none events⟩
  rw [hview] at h
  exact Row.line_of_mem_annotateFrom (List.mem_of_getElem? h)

/-- For which lines a row of the dump is marked, in whatever state the view is, and for which one it is
annotated. They are the same exactly if that line is printed in parentheses somewhere in the row, and
no other line is printed so behind its first number. -/
theorem marked_iff_printed (function : String) (dump : Dump) (report : Report)
    (events : List ViewEvent) {position index : Nat} {source : Option UInt32} {text : String}
    (h : ((ofDump function dump report).applyAll events).rows[position]? =
      some (.ssa index source text)) :
    let view := (ofDump function dump report).applyAll events
    let numbers := Row.numbers text.toList
    (∀ line, position ∈ (view.marking line).highlightedRows ↔ numeral line.toNat ∈ numbers) ∧
      (∀ line, (Row.print (view.marking line).highlight (.ssa index source text)).toList.head? =
        some '>' ↔ numeral line.toNat ∈ numbers) ∧
      (source = numbers.head?.bind fun inner => readLine? (trim inner)) ∧
      ((∀ line, position ∈ (view.marking line).highlightedRows ↔ source = some line) ↔
        (∀ line, source = some line → numeral line.toNat ∈ numbers) ∧
          ∀ line, numeral line.toNat ∈ numbers.tail → source = some line) := by
  intro view numbers
  have hmarked := mem_highlightedRows_marking_iff h
  have hsource := source_of_row h
  refine ⟨fun line => ?_, fun line => ?_, ?_, ?_⟩
  · rw [hmarked line, Row.mentions_iff]
  · rw [Row.head?_print_ssa, marking_eq]
    exact Row.mentions_iff text line
  · rw [hsource, Row.sourceLine?_eq_head?]
  · simp only [hsource]
    rw [← Row.mentions_iff_sourceLine?_iff]
    exact forall_congr' fun line => by rw [hmarked line]

/-! ## Rows that are marked for other lines -/

/-- A plain row, one with blanks in its parentheses, and one with two numbers. -/
def unevenDump : Dump :=
  ⟨["v1 (10) foo", "v4 ( 42 ) = Add64", "v5 (10) call (11)"], "/main.go"⟩

def unevenView : View := ofDump "main.Foo" unevenDump ∅

theorem marked_iff_printed_uneven :
    (unevenView.applyAll [.highlight 3 "/main.go"]).rows[2]? =
        some (.ssa 2 (some 10) "v5 (10) call (11)") ∧
      2 ∈ ((unevenView.applyAll [.highlight 3 "/main.go"]).marking 11).highlightedRows ∧
      2 ∈ ((unevenView.applyAll [.highlight 3 "/main.go"]).marking 10).highlightedRows := by
  have hrow : (unevenView.applyAll [.highlight 3 "/main.go"]).rows[2]? =
      some (.ssa 2 (some 10) "v5 (10) call (11)") := by decide
  obtain ⟨hmarked, -, -, -⟩ :=
    marked_iff_printed "main.Foo" unevenDump ∅ [.highlight 3 "/main.go"] hrow
  exact ⟨hrow, (hmarked 11).mpr (by decide), (hmarked 10).mpr (by decide)⟩

/-- A row is annotated for a line for which it is not marked, and one is marked for a line that is not
its source line. -/
theorem annotated_not_marked :
    unevenView.rows[1]? = some (.ssa 1 (some 42) "v4 ( 42 ) = Add64") ∧
      1 ∉ (unevenView.marking 42).highlightedRows ∧
      Row.print (some 42) (.ssa 1 (some 42) "v4 ( 42 ) = Add64") = "  v4 ( 42 ) = Add64\n" ∧
      unevenView.rows[2]? = some (.ssa 2 (some 10) "v5 (10) call (11)") ∧
      2 ∈ (unevenView.marking 11).highlightedRows := by
  decide

end View

end SsaLens
