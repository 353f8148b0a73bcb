import SsaLens.Dump
import SsaLens.Proofs.Symbol
import SsaLens.Proofs.Text.Occurrence
import SsaLens.Proofs.Text.Span

/-! # Extraction undoes the format of a dump

A dump is written as a header line, a line with the source file, its rows, and the closing. Where
the first opening of a symbol begins such lines, they are what is cut out.
-/

namespace SsaLens.Dump

open Text

/-- The line that names the source file. -/
def fileLine (file : List Char) : List Char := "# ./".toList ++ file

theorem newline_notMem_closing : '\n' ∉ closing := by decide

/-- A character that is neither in the opening nor in the identifier is not in the marker. -/
theorem notMem_marker {c : Char} {identifier : List Char} (hopening : c ∉ opening)
    (hidentifier : c ∉ identifier) : c ∉ opening ++ Symbol.bareChars identifier := by
  intro hmem
  rcases List.mem_append.mp hmem with hmem | hmem
  · exact hopening hmem
  · exact hidentifier (Symbol.bareChars_subset _ hmem)

theorem dropReturn_of_getLast? {line : List Char} (h : line.getLast? ≠ some '\r') :
    dropReturn line = line := if_neg h

theorem removeFirst_append (pattern rest : List Char) :
    removeFirst pattern (pattern ++ rest) = rest := by
  rw [removeFirst, split?_of_prefix (List.prefix_append pattern rest)]
  simp

section FileName

variable {file : List Char} (hfront : Stops isBlank file) (hback : Stops isBlank file.reverse)

include hback

/-- The line that names a file ends with no carriage return. -/
theorem dropReturn_fileLine : dropReturn (fileLine file) = fileLine file := by
  refine dropReturn_of_getLast? fun hlast => ?_
  rw [fileLine, List.getLast?_append] at hlast
  cases hfile : file.getLast? with
  | none => simp [hfile] at hlast
  | some c =>
      have hc : c = '\r' := by simpa [hfile] using hlast
      have hblank := hback c (by rw [List.head?_reverse, hfile]; rfl)
      rw [hc] at hblank
      exact absurd hblank (by decide)

include hfront

/-- The name that is read from the line of a file is the file's, after a slash. -/
theorem fileNameOf_fileLine : fileNameOf (fileLine file) = String.ofList ('/' :: file) := by
  have hmark : removeFirst ['#'] (fileLine file) = " ./".toList ++ file :=
    removeFirst_append ['#'] (" ./".toList ++ file)
  have hpoint : removeFirst ['.', '/'] (" ./".toList ++ file) = [' '] ++ file := by
    simp [removeFirst, split?]
  rw [fileNameOf, hmark, hpoint, trim_append (by simp [isBlank, inRanges, blankRanges]) hfront hback]

end FileName

/-- The region reaches from the marker to the first closing one, which no line before it holds. -/
theorem region?_of_split? {output symbol front suffix : List Char} {lines : List (List Char)}
    (hsplit : split? (opening ++ symbol) output =
      some (front, written lines ++ (closing ++ suffix)))
    (hclosing : ∀ line ∈ lines, ¬ closing <:+: line) :
    region? output symbol = some (written lines) := by
  simp only [region?, hsplit, Option.bind_eq_bind, Option.bind_some,
    split?_written_append newline_notMem_closing _ hclosing,
    split?_of_prefix (List.prefix_append closing suffix), Option.map_some, List.append_nil]
  rfl

/-- The lines that were written come back, each without a carriage return at its end. -/
theorem regionLines_written {lines : List (List Char)} (hlines : ∀ line ∈ lines, '\n' ∉ line)
    (hlength : 2 ≤ lines.length) : regionLines (written lines) = lines.map dropReturn := by
  -- the piece behind the last newline is empty, and it is the one that is left out
  have hpieces : (pieces (written lines)).map dropReturn = lines.map dropReturn ++ [[]] := by
    conv_lhs => rw [← List.append_nil (written lines), pieces_written_append hlines, List.map_append]
    rfl
  rw [regionLines, hpieces, if_pos (by simp; omega), List.dropLast_concat]

/-- The line of a file has the closing marker exactly if the file's name has it. -/
theorem closing_infix_fileLine_iff {file : List Char} :
    closing <:+: fileLine file ↔ closing <:+: file := by
  have hstart : closing = 'd' :: "umped SSA".toList := by decide
  rw [hstart, fileLine, infix_append_iff_of_notMem (by decide)]

/-! ## Printed dumps -/

/-- A dump as the compiler prints it, up to its closing. -/
def print (symbol file : String) (rows : List String) : String :=
  "genssa " ++ symbol ++ "\n# ./" ++ file ++ "\n" ++ String.join (rows.map (· ++ "\n")) ++ "dumped SSA"

/-- The lines of a printed dump before its closing. -/
def printedLines (symbol file : String) (rows : List String) : List (List Char) :=
  (opening ++ symbol.toList) :: fileLine file.toList :: rows.map String.toList

theorem toList_join_lines (rows : List String) :
    (String.join (rows.map (· ++ "\n"))).toList = written (rows.map String.toList) := by
  rw [String.toList_join, List.flatMap_map, written, List.flatMap_map]
  simp

theorem toList_print (symbol file : String) (rows : List String) :
    (print symbol file rows).toList = written (printedLines symbol file rows) ++ closing := by
  have hopening : "genssa ".toList = opening := rfl
  have hclosing : "dumped SSA".toList = closing := rfl
  have hfileline : "\n# ./".toList = '\n' :: "# ./".toList := rfl
  have hnewline : "\n".toList = ['\n'] := rfl
  simp only [print, printedLines, String.toList_append, toList_join_lines, hopening, hclosing,
    hfileline, hnewline, written_cons, fileLine, List.append_assoc, List.cons_append, List.nil_append]

/-- Where the first opening of a symbol begins a printed dump, its rows and its file are extracted. -/
theorem extract_of_split? {output identifier symbol file : String} {rows : List String}
    {front suffix : List Char}
    (hsplit : split? (opening ++ Symbol.bareChars identifier.toList) output.toList =
      some (front, written (printedLines symbol file rows) ++ (closing ++ suffix)))
    (hlines : ∀ line ∈ printedLines symbol file rows, '\n' ∉ line)
    (hclosing : ∀ line ∈ printedLines symbol file rows, ¬ closing <:+: line)
    (hfront : Stops isBlank file.toList) (hback : Stops isBlank file.toList.reverse) :
    extract output identifier =
      some ⟨rows.map fun row => String.ofList (dropReturn row.toList), "/" ++ file⟩ := by
  have hslash : String.ofList ('/' :: file.toList) = "/" ++ file := by
    rw [← String.toList_inj, String.toList_ofList, String.toList_append]
    rfl
  rw [extract, region?_of_split? hsplit hclosing, Option.map_some, Function.comp_apply,
    regionLines_written hlines (by simp [printedLines])]
  simp only [printedLines, List.map_cons, ofLines, dropReturn_fileLine hback,
    fileNameOf_fileLine hfront hback, List.map_map, Function.comp_def, hslash]

/-- What holds of a dump that is printed behind a text and comes out as it went in. The text ends a
line and none of its lines has the opening of the function; no line of the dump has a closing; and
nothing in it looks like the blanks and carriage returns that reading drops. -/
structure Printable (identifier front file : String) (rows : List String) : Prop where
  identifier_one_line : '\n' ∉ identifier.toList
  front_ends : front = "" ∨ front.toList.getLast? = some '\n'
  front_unmarked : ∀ line ∈ pieces front.toList,
    ¬ opening ++ Symbol.bareChars identifier.toList <:+: line
  file_one_line : '\n' ∉ file.toList
  file_leading : Stops isBlank file.toList
  file_trailing : Stops isBlank file.toList.reverse
  rows_one_line : ∀ row ∈ rows, '\n' ∉ row.toList
  rows_return : ∀ row ∈ rows, row.toList.getLast? ≠ some '\r'
  marker_unclosed : ¬ closing <:+: opening ++ Symbol.bareChars identifier.toList
  file_unclosed : ¬ closing <:+: file.toList
  rows_unclosed : ∀ row ∈ rows, ¬ closing <:+: row.toList

namespace Printable

variable {identifier front file : String} {rows : List String}

theorem marker_one_line (h : Printable identifier front file rows) :
    '\n' ∉ opening ++ Symbol.bareChars identifier.toList :=
  notMem_marker (by decide) h.identifier_one_line

theorem lines_one_line (h : Printable identifier front file rows) :
    ∀ line ∈ printedLines (Symbol.bare identifier) file rows, '\n' ∉ line := by
  refine List.forall_mem_cons.mpr ⟨?_, List.forall_mem_cons.mpr ⟨?_, ?_⟩⟩
  · simpa [Symbol.bare] using h.marker_one_line
  · simpa [fileLine] using h.file_one_line
  · exact List.forall_mem_map.mpr h.rows_one_line

/-- No line of a printable dump has the closing marker. -/
theorem lines_unclosed (h : Printable identifier front file rows) :
    ∀ line ∈ printedLines (Symbol.bare identifier) file rows, ¬ closing <:+: line := by
  refine List.forall_mem_cons.mpr ⟨?_, List.forall_mem_cons.mpr ⟨?_, ?_⟩⟩
  · simpa [Symbol.bare] using h.marker_unclosed
  · exact fun hwithin => h.file_unclosed (closing_infix_fileLine_iff.mp hwithin)
  · exact List.forall_mem_map.mpr h.rows_unclosed

end Printable

/-- Extraction undoes printing, whatever surrounds the dump. -/
theorem extract_print {identifier front file : String} {rows : List String}
    (h : Printable identifier front file rows) (suffix : String) :
    extract (front ++ print (Symbol.bare identifier) file rows ++ suffix) identifier =
      some ⟨rows, "/" ++ file⟩ := by
  have houtput : (front ++ print (Symbol.bare identifier) file rows ++ suffix).toList =
      front.toList ++ (written (printedLines (Symbol.bare identifier) file rows) ++
        (closing ++ suffix.toList)) := by
    simp only [String.toList_append, toList_print, List.append_assoc]
  have hmarked : opening ++ Symbol.bareChars identifier.toList <+:
      written (printedLines (Symbol.bare identifier) file rows) ++ (closing ++ suffix.toList) := by
    rw [printedLines, written_cons, Symbol.bare, String.toList_ofList, List.append_assoc]
    exact List.prefix_append _ _
  have hsplit := split?_append_of_prefix h.marker_one_line
    (h.front_ends.imp_left (congrArg String.toList)) h.front_unmarked hmarked
  rw [← houtput] at hsplit
  have hkept : rows.map (fun row => String.ofList (dropReturn row.toList)) = rows := by
    refine (List.map_congr_left fun row hrow => ?_).trans (List.map_id rows)
    rw [dropReturn_of_getLast? (h.rows_return row hrow), String.ofList_toList]
    rfl
  rw [extract_of_split? hsplit h.lines_one_line h.lines_unclosed h.file_leading h.file_trailing,
    hkept]

theorem extract_print_blank_rows :
    Printable "pkg.Sum" "pass opt for Sum\ngenssa Su\n" "a#b/./c d.go" ["v1 (3) x", "", ""] ∧
      extract ("pass opt for Sum\ngenssa Su\n" ++
        print (Symbol.bare "pkg.Sum") "a#b/./c d.go" ["v1 (3) x", "", ""] ++ " for Sum") "pkg.Sum" =
          some ⟨["v1 (3) x", "", ""], "/" ++ "a#b/./c d.go"⟩ := by
  have hprintable :
      Printable "pkg.Sum" "pass opt for Sum\ngenssa Su\n" "a#b/./c d.go" ["v1 (3) x", "", ""] := by
    constructor <;> decide
  exact ⟨hprintable, extract_print hprintable " for Sum"⟩

end SsaLens.Dump
