import SsaLens.Proofs.SortedMap
import SsaLens.Proofs.Text.Lines
import SsaLens.Report

/-! # Reading a report line by line

A report is read one line after the other, and a line that is classified replaces what was said of its
line number. So the last line on a number counts, and a report can be read on from where whole lines
were read before.
-/

namespace SsaLens.Report

/-- Read one more line into a report. -/
def read (report : Report) (line : List Char) : Report :=
  match Diagnostic.classify (String.ofList line) with
  | some (number, verdict) => report.insert number verdict
  | none => report

/-- The verdict of a line, if it is on a line number. -/
def said? (number : UInt32) (line : List Char) : Option Verdict :=
  (Diagnostic.classify (String.ofList line)).bind fun (other, verdict) =>
    if other = number then some verdict else none

/-- Of the lines the last one that is classified as one on a number gives a verdict. -/
def LastSaid (number : UInt32) (verdict : Verdict) (lines : List (List Char)) : Prop :=
  ∃ front line back, lines = front ++ line :: back ∧
    Diagnostic.classify (String.ofList line) = some (number, verdict) ∧
      ∀ later ∈ back, ∀ other, Diagnostic.classify (String.ofList later) ≠ some (number, other)

variable {number : UInt32} {verdict : Verdict} {line : List Char}

theorem said?_eq_some_iff :
    said? number line = some verdict ↔
      Diagnostic.classify (String.ofList line) = some (number, verdict) := by
  rw [said?, Option.bind_eq_some_iff]
  constructor
  · rintro ⟨⟨other, found⟩, hfound, hverdict⟩
    obtain ⟨rfl, hsame⟩ := Option.ite_none_right_eq_some.mp hverdict
    rw [hfound, Option.some.inj hsame]
  · intro hfound
    exact ⟨(number, verdict), hfound, if_pos rfl⟩

theorem said?_eq_none_iff :
    said? number line = none ↔
      ∀ verdict, Diagnostic.classify (String.ofList line) ≠ some (number, verdict) := by
  simp only [Option.eq_none_iff_forall_ne_some, ne_eq, said?_eq_some_iff]

/-! ## One line, and all lines -/

/-- A line changes the decision of the line number it speaks of, and of no other. -/
theorem get?_read (report : Report) (line : List Char) (number : UInt32) :
    (report.read line).get? number = (said? number line).or (report.get? number) := by
  unfold read said?
  cases Diagnostic.classify (String.ofList line) with
  | none => rfl
  | some found =>
      obtain ⟨other, verdict⟩ := found
      rw [SortedMap.get?_insert, Option.bind_some]
      by_cases hnumber : other = number
      · simp [hnumber]
      · simp [hnumber]

/-- After some lines the decision of a number is the last that was said of it, else the earlier one. -/
theorem get?_foldl_read (report : Report) (lines : List (List Char)) (number : UInt32) :
    (lines.foldl read report).get? number =
      (lines.reverse.findSome? (said? number)).or (report.get? number) := by
  induction lines generalizing report with
  | nil => rfl
  | cons line rest ih =>
      rw [List.foldl_cons, ih, get?_read, List.reverse_cons, List.findSome?_append, Option.or_assoc]
      simp

theorem parse_eq_foldl (text : String) : parse text = (Text.lines text.toList).foldl read ∅ := by
  rw [parse, SortedMap.ofEntries, SortedMap.insertAll, diagnostics, List.foldl_filterMap]
  congr 1
  funext report line
  rw [read]
  cases Diagnostic.classify (String.ofList line) <;> rfl

/-- The decision of a number is the first one said of it from the end of the text. -/
theorem get?_parse_eq_findSome? (text : String) (number : UInt32) :
    (parse text).get? number = (Text.lines text.toList).reverse.findSome? (said? number) := by
  rw [parse_eq_foldl, get?_foldl_read, SortedMap.get?_empty, Option.or_none]

/-- The search from the end finds the verdict that was said last. -/
theorem findSome?_reverse_eq_some_iff {lines : List (List Char)} :
    lines.reverse.findSome? (said? number) = some verdict ↔ LastSaid number verdict lines := by
  rw [List.findSome?_eq_some_iff, LastSaid]
  constructor
  · rintro ⟨later, line, earlier, hlines, hsaid, hlater⟩
    refine ⟨earlier.reverse, line, later.reverse, ?_, said?_eq_some_iff.mp hsaid, ?_⟩
    · rw [← List.reverse_reverse lines, hlines]
      simp
    · intro other hother
      exact said?_eq_none_iff.mp (hlater other (List.mem_reverse.mp hother))
  · rintro ⟨earlier, line, later, rfl, hsaid, hlater⟩
    refine ⟨later.reverse, line, earlier.reverse, by simp, said?_eq_some_iff.mpr hsaid, ?_⟩
    intro other hother
    exact said?_eq_none_iff.mpr (hlater other (List.mem_reverse.mp hother))

/-- A number has a decision exactly if some line of the text is a diagnostic of it. -/
theorem contains_parse_iff {text : String} :
    (parse text).contains number = true ↔
      ∃ line ∈ Text.lines text.toList, ∃ verdict,
        Diagnostic.classify (String.ofList line) = some (number, verdict) := by
  rw [SortedMap.contains, get?_parse_eq_findSome?, List.findSome?_isSome_iff]
  simp only [List.mem_reverse, Option.isSome_iff_exists, said?_eq_some_iff]

/-! ## Reading on -/

section Continued

variable {first : String} (hfirst : Text.WholeLines first.toList)

include hfirst

theorem parse_append (rest : String) :
    parse (first ++ rest) = (Text.lines rest.toList).foldl read (parse first) := by
  rw [parse_eq_foldl, parse_eq_foldl first, String.toList_append, Text.lines_append hfirst,
    List.foldl_append]

/-- What is appended to whole lines overrides the decisions on the numbers it speaks of. -/
theorem get?_parse_append (rest : String) (number : UInt32) :
    (parse (first ++ rest)).get? number = ((parse rest).get? number).or ((parse first).get? number) := by
  rw [parse_append hfirst, get?_foldl_read, ← get?_parse_eq_findSome?]

/-- A text that is read twice decides as if it were read once. -/
theorem parse_append_self : parse (first ++ first) = parse first := by
  apply SortedMap.ext_get?
  intro number
  rw [get?_parse_append hfirst, Option.or_self]

end Continued

/-- A report lists its line numbers in order. It has those on which a line is classified, with the
verdict of the last such line as it is. Behind whole lines it can be read on: what comes later counts,
the same lines once more change nothing, and the later lines may be read one by one. -/
theorem parse_last_wins (text : String) :
    (parse text).keys.Pairwise (· < ·) ∧
      (∀ number, (parse text).contains number = true ↔
        ∃ line ∈ Text.lines text.toList, ∃ verdict,
          Diagnostic.classify (String.ofList line) = some (number, verdict)) ∧
      (∀ number verdict, (parse text).get? number = some verdict ↔
        LastSaid number verdict (Text.lines text.toList)) ∧
      (Text.WholeLines text.toList →
        (∀ later number, (parse (text ++ later)).get? number =
          ((parse later).get? number).or ((parse text).get? number)) ∧
        parse (text ++ text) = parse text ∧
        ∀ later, (Text.lines later.toList).foldl read (parse text) = parse (text ++ later)) := by
  refine ⟨(parse text).keys_ascending, fun number => contains_parse_iff, ?_, ?_⟩
  · intro number verdict
    rw [get?_parse_eq_findSome?, findSome?_reverse_eq_some_iff]
  · intro hwhole
    refine ⟨get?_parse_append hwhole, parse_append_self hwhole, ?_⟩
    intro later
    exact (parse_append hwhole later).symm

/-! ## A report that goes on -/

def begunText : String :=
  "./a.go:7:6: can inline f with cost 10 as: func() { }\n./a.go:9:3: inlining call to g\n# a\n"

/-- More lines, of which the last one has no end. -/
def laterText : String := "./a.go:9:3: cannot inline h: recursive\r\n./a.go:9:5: inlining call to f"

theorem parse_last_wins_later :
    Text.WholeLines begunText.toList ∧
      (parse (begunText ++ laterText)).get? 9 = some (.inlinedCall "f") ∧
      (parse (begunText ++ laterText)).get? 7 = some (.canInline "f" "10" "func() { }") ∧
      parse (begunText ++ begunText) = parse begunText ∧
      (Text.lines laterText.toList).foldl read (parse begunText) = parse (begunText ++ laterText) := by
  have hwhole : Text.WholeLines begunText.toList := by decide
  obtain ⟨-, -, -, hcontinued⟩ := parse_last_wins begunText
  obtain ⟨hget, hself, hread⟩ := hcontinued hwhole
  have hbegun : parse begunText =
      .ofEntries [(7, .canInline "f" "10" "func() { }"), (9, .inlinedCall "g")] := by decide +kernel
  have hlater : parse laterText = .ofEntries [(9, .inlinedCall "f")] := by decide +kernel
  refine ⟨hwhole, ?_, ?_, hself, hread laterText⟩
  · rw [hget, hlater]
    rfl
  · rw [hget, hlater, hbegun]
    rfl

end SsaLens.Report
