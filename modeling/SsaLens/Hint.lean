import SsaLens.Json
import SsaLens.Report
import SsaLens.Text.Units

/-! # Hints

A hint shows a verdict in a document, behind its source line.
-/

namespace SsaLens

/-- A text behind a line of a document. Lines count from zero. -/
structure Hint where
  line : UInt32
  column : Nat
  label : String
  tooltip : Option String
  deriving DecidableEq, Repr

/-- The lines of a document that are asked for, both ends included. -/
structure LineRange where
  first : UInt32
  last : UInt32
  deriving DecidableEq, Repr

namespace Hint

/-- The hint of a verdict, if its line is asked for and there in the document. -/
def place? (lines : List (List Char)) (range : LineRange) (number : UInt32) (verdict : Verdict) :
    Option Hint :=
  if number = 0 then none
  else
    let line := number - 1
    if line < range.first ∨ range.last < line then none
    else lines[line.toNat]?.map fun text =>
      ⟨line, Text.endColumn text, " " ++ verdict.describe, verdict.shape?.map ("as: " ++ ·)⟩

/-- The hints of a report in a document, by line. -/
def ofReport (content : String) (report : Report) (range : LineRange) : List Hint :=
  let lines := Text.documentLines content.toList
  report.entries.filterMap fun (number, verdict) => place? lines range number verdict

open Json in
def toJson (hint : Hint) : Json :=
  obj ([("position", obj [("line", ofLine hint.line), ("character", ofNat hint.column)]),
      ("label", str hint.label), ("kind", ofNat 1)] ++
    (hint.tooltip.map fun text => ("tooltip", str text)).toList ++
    [("paddingLeft", bool false), ("paddingRight", bool false)])

end Hint

end SsaLens
