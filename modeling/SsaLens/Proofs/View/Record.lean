import SsaLens.Proofs.Report.Record
import SsaLens.View.Record

/-! # Reading back events

An event is read from its record as it was written, unless it brings a verdict. The record has the
verdicts, and the report in it is read back by itself; but below the tag of the event its line numbers
are plain texts.
-/

namespace SsaLens

open Json

namespace ViewEvent

/-- The report that an event brings; a cursor brings none. -/
def report : ViewEvent → Report
  | highlight .. => ∅
  | replace _ report _ _ => report

theorem ofJson?_highlight (line : UInt32) (fileName : String) :
    ofJson? (highlight line fileName).toJson = some (highlight line fileName) := by
  have htag : (highlight line fileName).toJson.tagged? "type" =
      some ("highlight", obj [("line", ofLine line), ("fileName", str fileName)]) :=
    tagged?_cons (by simp [fieldsAreLegible, isLegible]) (by simp)
  simp [ofJson?, htag, fields?, objectFields?, single?, asString?]

/-- All of a listing is read back, as far as its report is. -/
theorem ofJson?_replace (rows : List String) (report : Report) (line : Option UInt32)
    (fileName : String) :
    ofJson? (replace rows report line fileName).toJson =
      (Report.ofTaggedJson? report.toJson).map fun read => replace rows read line fileName := by
  have htag : (replace rows report line fileName).toJson.tagged? "type" =
      some ("updateSSA", obj [("ssaText", ofStrings rows), ("inlineDecisions", report.toJson),
        ("line", ofOption ofLine line), ("fileName", str fileName)]) :=
    tagged?_cons (by simp [fieldsAreLegible, isLegible, Report.isLegible_toJson]) (by simp)
  cases hread : Report.ofTaggedJson? report.toJson <;>
    simp [ofJson?, htag, fields?, objectFields?, single?, asString?, hread]

/-- An event is read back exactly if it brings no verdict, although its report is read back by
itself. -/
theorem event_read_back (event : ViewEvent) :
    ofJson? event.toJson = (if event.report = ∅ then some event else none) ∧
      Report.ofJson? event.report.toJson = some event.report := by
  refine ⟨?_, Report.ofJson?_toJson event.report⟩
  cases event with
  | highlight line fileName =>
      rw [ofJson?_highlight]
      rfl
  | replace rows report line fileName =>
      rw [ofJson?_replace, Report.ofTaggedJson?_toJson, ViewEvent.report]
      split <;> rfl

/-- The listing of one row, with one verdict. -/
def annotated : ViewEvent :=
  replace ["v1 (5) a"] (SortedMap.insert ∅ 5 (.inlinedCall "helper")) none "/a.go"

theorem annotated_not_read_back : ofJson? annotated.toJson = none := by
  have hreport : ¬ (SortedMap.insert ∅ 5 (.inlinedCall "helper") : Report) = ∅ := by decide
  rw [annotated, ofJson?_replace, Report.ofTaggedJson?_toJson, if_neg hreport, Option.map_none]

end ViewEvent

end SsaLens
