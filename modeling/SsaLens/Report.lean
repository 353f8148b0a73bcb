import SsaLens.SortedMap
import SsaLens.Text.Lines
import SsaLens.Verdict.Diagnostic

/-! # Reports

A report holds at most one verdict per source line. It is read from the compiler's
diagnostics, where a later one for the same line replaces an earlier one.
-/

namespace SsaLens

/-- The verdicts of one source file by line number. -/
abbrev Report := SortedMap UInt32 Verdict

namespace Report

/-- The classified lines of a text, in order. -/
def diagnostics (text : String) : List (UInt32 × Verdict) :=
  (Text.lines text.toList).filterMap fun line => Diagnostic.classify (String.ofList line)

/-- The report that the diagnostics of a text make. -/
def parse (text : String) : Report := .ofEntries (diagnostics text)

/-- One line per verdict, in line order. -/
def text (fileName : String) (report : Report) : String :=
  if report.isEmpty then "No inlining decisions for " ++ fileName ++ "\n"
  else String.join (report.entries.map fun (line, verdict) =>
    Text.decimal line.toNat ++ ": " ++ verdict.describe ++ "\n")

end Report

end SsaLens
