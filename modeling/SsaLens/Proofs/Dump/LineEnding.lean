import SsaLens.Proofs.Dump.FileName
import SsaLens.Proofs.Dump.Region
import SsaLens.Proofs.Text.LineEnding
import SsaLens.Report

/-! # Output with either line ending

The compiler's output is read alike whether its lines end in newlines alone or in a carriage return and
a newline: it makes the same report, and the same dump of each function. The region of a dump may end
within a line, and its last piece then ends as it did.
-/

namespace SsaLens

open Text

/-- What is decided does not depend on how the lines of the log end. -/
theorem Report.parse_withReturns {text : String} (h : PlainEndings text.toList) :
    parse (withReturns text) = parse text := by
  rw [parse, diagnostics, toList_withReturns, lines_addReturns h]
  rfl

namespace Dump

/-- The region of a text whose lines end with CR LF is the region with such endings. -/
theorem region?_addReturns {symbol : List Char} (hsymbol : WithinLine (opening ++ symbol))
    (output : List Char) :
    region? (addReturns output) symbol = (region? output symbol).map addReturns := by
  have hclosing : WithinLine closing := ⟨by decide, by decide, by decide⟩
  rw [region?, region?, hsymbol.split?_addReturns]
  cases split? (opening ++ symbol) output with
  | none => rfl
  | some found =>
      simp only [Option.map_some, Option.bind_eq_bind, Option.bind_some, hclosing.split?_addReturns]
      cases split? closing found.2 <;> rfl

/-- A region has the same lines with either line ending. -/
theorem regionLines_addReturns {region : List Char} (h : PlainEndings region) :
    regionLines (addReturns region) = regionLines region := by
  rw [regionLines, regionLines, map_dropReturn_pieces_addReturns h]

/-- What is extracted does not depend on how the lines of the output end. -/
theorem extract_withReturns {output identifier : String} (houtput : PlainEndings output.toList)
    (hnewline : '\n' ∉ identifier.toList) (hreturn : '\r' ∉ identifier.toList) :
    extract (withReturns output) identifier = extract output identifier := by
  have hsymbol : WithinLine (opening ++ Symbol.bareChars identifier.toList) :=
    ⟨List.append_ne_nil_of_left_ne_nil (by decide) _, notMem_marker (by decide) hnewline,
      notMem_marker (by decide) hreturn⟩
  rw [extract, extract, toList_withReturns, region?_addReturns hsymbol]
  cases hregion : region? output.toList (Symbol.bareChars identifier.toList) with
  | none => rfl
  | some region =>
      have hplain : PlainEndings region := houtput.of_infix (infix_of_region? hregion)
      simp only [Option.map_some, Function.comp_apply, regionLines_addReturns hplain]

end Dump

/-- Reports and dumps are read as if the carriage returns before the newlines were not there. -/
theorem read_withReturns {text : String} (h : PlainEndings text.toList) :
    Report.parse (withReturns text) = Report.parse text ∧
      ∀ identifier : String, '\r' ∉ identifier.toList → '\n' ∉ identifier.toList →
        Dump.extract (withReturns text) identifier = Dump.extract text identifier := by
  refine ⟨Report.parse_withReturns h, ?_⟩
  intro identifier hreturn hnewline
  exact Dump.extract_withReturns h hnewline hreturn

/-- A dump whose closing stands within a line, a carriage return inside a row, and a last line without
a newline. -/
def unevenOutput : String :=
  "genssa Foo\n# ./a.go\nv1 (3) x\ry\n\nv2 dumped SSA for Foo\n./a.go:5:9: inlining call to f"

theorem read_withReturns_unevenOutput :
    PlainEndings unevenOutput.toList ∧ '\r' ∉ "pkg.Foo".toList ∧ '\n' ∉ "pkg.Foo".toList ∧
      Dump.extract (withReturns unevenOutput) "pkg.Foo" = some ⟨["v1 (3) x\ry", "", "v2 "], "/a.go"⟩ ∧
      (Report.parse (withReturns unevenOutput)).entries = [(5, .inlinedCall "f")] := by
  have hplain : PlainEndings unevenOutput.toList := by decide +kernel
  obtain ⟨hreport, hdump⟩ := read_withReturns hplain
  have hreturn : '\r' ∉ "pkg.Foo".toList := by decide
  have hnewline : '\n' ∉ "pkg.Foo".toList := by decide
  refine ⟨hplain, hreturn, hnewline, ?_, ?_⟩
  · rw [hdump "pkg.Foo" hreturn hnewline]
    decide +kernel
  · rw [hreport]
    decide +kernel

end SsaLens
