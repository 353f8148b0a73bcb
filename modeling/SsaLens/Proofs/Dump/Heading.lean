import SsaLens.Proofs.Dump.Region
import SsaLens.Proofs.Text.LineEnding

/-! # The line that names the file

The second line of a dump is a mark and the source file. What is extracted from such a dump is named
after the file, whatever the rest of the output is.
-/

namespace SsaLens.Dump

open Text

/-- What an extraction looks for first. -/
def marker (identifier : String) : List Char := opening ++ Symbol.bareChars identifier.toList

/-- The text of a dump, from a first line on, whose second line names a file. -/
def headed (first file ending rest : String) : String :=
  first ++ "\n# ./" ++ file ++ ending ++ "\n" ++ rest

/-- An output in which the first dump of a function names a file in its second line. Lines may end
with a carriage return; the first line does not close the dump, but the rest does. -/
structure Heading (identifier file : String) where
  front : String
  first : String
  ending : String
  rest : String
  first_one_line : '\n' ∉ first.toList
  ending_return : ending = "" ∨ ending = "\r"
  opened : marker identifier <+: (headed first file ending rest).toList
  unopened : ∀ skipped < front.toList.length,
    ¬ marker identifier <+: (front ++ headed first file ending rest).toList.drop skipped
  first_unclosed : ¬ closing <:+: first.toList
  closed : closing <:+: rest.toList

/-- A line of a dump does not get a closing by the carriage return that ends it. -/
theorem closing_infix_concat_return_iff {line : List Char} :
    closing <:+: line ++ ['\r'] ↔ closing <:+: line := by
  constructor
  · intro hwithin
    rcases List.infix_concat_iff.mp hwithin with ⟨front, hend⟩ | hwithin
    · have hclosing : closing.getLast? = some 'A' := by decide
      have hlast := congrArg List.getLast? hend
      rw [List.getLast?_concat, List.getLast?_append, hclosing, Option.some_or] at hlast
      exact absurd (Option.some.inj hlast) (by decide)
    · exact hwithin
  · intro hwithin
    exact hwithin.trans (List.prefix_append line ['\r']).isInfix

/-- The first two lines of a region are kept, also if the last one is left out. -/
theorem regionLines_written_append {first named : List Char} (hfirst : '\n' ∉ first)
    (hnamed : '\n' ∉ named) (rest : List Char) :
    ∃ rows, regionLines (written [first, named] ++ rest) =
      dropReturn first :: dropReturn named :: rows := by
  have hlines : ∀ line ∈ [first, named], '\n' ∉ line := by simp [hfirst, hnamed]
  have hrest : (pieces rest).map dropReturn ≠ [] := by simp [pieces]
  rw [regionLines, pieces_written_append hlines, List.map_append, List.map_cons, List.map_singleton,
    List.cons_append, List.singleton_append]
  split
  · rw [List.dropLast_cons_of_ne_nil (List.cons_ne_nil _ _), List.dropLast_cons_of_ne_nil hrest]
    exact ⟨_, rfl⟩
  · exact ⟨_, rfl⟩

namespace Heading

variable {identifier file : String} (heading : Heading identifier file)

def found : String := headed heading.first file heading.ending heading.rest

def output : String := heading.front ++ heading.found

/-- The second line, with what ends it. -/
def named : List Char := fileLine file.toList ++ heading.ending.toList

theorem toList_found :
    heading.found.toList = written [heading.first.toList, heading.named] ++ heading.rest.toList := by
  have hmark : "\n# ./".toList = '\n' :: "# ./".toList := rfl
  have hnewline : "\n".toList = ['\n'] := rfl
  simp only [found, headed, named, fileLine, String.toList_append, hmark, hnewline, written_cons,
    written_nil, List.append_assoc, List.cons_append, List.nil_append]

/-- The output is split where the heading has the marker, and at no earlier place. -/
theorem split?_marker :
    split? (marker identifier) heading.output.toList =
      some (heading.front.toList, heading.found.toList) := by
  have houtput : heading.output.toList = heading.front.toList ++ heading.found.toList :=
    String.toList_append
  exact split?_eq_some_iff.mpr ⟨houtput, heading.opened, heading.unopened⟩

theorem newline_notMem_named (hfile : '\n' ∉ file.toList) : '\n' ∉ heading.named := by
  have hending : '\n' ∉ heading.ending.toList := by
    rcases heading.ending_return with hending | hending <;> rw [hending] <;> decide
  rw [named, fileLine, List.mem_append, List.mem_append]
  rintro ((hmem | hmem) | hmem)
  · exact absurd hmem (by decide)
  · exact hfile hmem
  · exact hending hmem

/-- The line that names the file has no closing marker if the file's name has none. -/
theorem named_unclosed (hfile : ¬ closing <:+: file.toList) : ¬ closing <:+: heading.named := by
  rw [← closing_infix_fileLine_iff] at hfile
  unfold named
  rcases heading.ending_return with hending | hending
  · rw [hending]
    simpa using hfile
  · rw [hending]
    exact mt closing_infix_concat_return_iff.mp hfile

/-- Without the carriage return that may end it, the second line is the line of the file. -/
theorem dropReturn_named (hback : Stops isBlank file.toList.reverse) :
    dropReturn heading.named = fileLine file.toList := by
  unfold named
  rcases heading.ending_return with hending | hending
  · rw [hending, String.toList_empty, List.append_nil, dropReturn_fileLine hback]
  · rw [hending]
    exact dropReturn_concat _

/-- The dump of the function is found, and named after the file. -/
theorem exists_extract (hfile : '\n' ∉ file.toList) (hunclosed : ¬ closing <:+: file.toList)
    (hfront : Stops isBlank file.toList) (hback : Stops isBlank file.toList.reverse) :
    ∃ dump, extract heading.output identifier = some dump ∧ dump.fileName = "/" ++ file := by
  -- the closing is in neither of the first two lines, so the region goes on behind them
  have hlines : ∀ line ∈ [heading.first.toList, heading.named], ¬ closing <:+: line := by
    simp [heading.first_unclosed, heading.named_unclosed hunclosed]
  obtain ⟨⟨inside, rest⟩, hclosing⟩ :=
    Option.isSome_iff_exists.mp (occurs_iff.mpr heading.closed)
  have hregion : region? heading.output.toList (Symbol.bareChars identifier.toList) =
      some (written [heading.first.toList, heading.named] ++ inside) := by
    have hmarker := heading.split?_marker
    rw [marker] at hmarker
    simp only [region?, hmarker, Option.bind_eq_bind, Option.bind_some, toList_found,
      split?_written_append newline_notMem_closing _ hlines, hclosing, Option.map_some]
    rfl
  obtain ⟨rows, hrows⟩ := regionLines_written_append heading.first_one_line
    (heading.newline_notMem_named hfile) inside
  rw [extract, hregion, Option.map_some, Function.comp_apply, hrows]
  refine ⟨_, rfl, ?_⟩
  rw [ofLines, heading.dropReturn_named hback, fileNameOf_fileLine hfront hback]
  rw [← String.toList_inj, String.toList_ofList, String.toList_append]
  rfl

end Heading

end SsaLens.Dump
