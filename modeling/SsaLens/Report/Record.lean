import SsaLens.Json.Reader
import SsaLens.Report
import SsaLens.Verdict.Record

/-! # Report records

A report is an object whose field names are line numbers.
-/

namespace SsaLens.Report

open Json

def toJson (report : Report) : Json :=
  obj (report.entries.map fun (line, verdict) => (Text.decimal line.toNat, verdict.toJson))

/-- Read a report. Of two verdicts for one line the later one stays. -/
def ofJson? : Json → Option Report
  | obj fields => do
      let entries ← fields.mapM fun (name, value) => do
        pure ((← lineKey? name), (← Verdict.ofJson? value))
      pure (.ofEntries entries)
  | _ => none

/-- Read the JSON text of a report. Line numbers are written as they are, without escapes. -/
def ofText? (text : String) : Option Report := (parsePlain? text).bind ofJson?

/-- Read a report inside a tagged record. Field names are plain texts there, and none is taken for
a line number, so that only the empty report can be read. -/
def ofTaggedJson? : Json → Option Report
  | obj [] => some ∅
  | _ => none

/-- The report of a named file as a record. -/
def toFileJson (fileName : String) (report : Report) : Json :=
  obj [("fileName", str fileName), ("inlineDecisions", report.toJson)]

end SsaLens.Report
