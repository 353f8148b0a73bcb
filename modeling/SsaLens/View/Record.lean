import SsaLens.Report.Record
import SsaLens.Row.Record
import SsaLens.View

/-! # View and event records

Events are tagged with their type.
-/

namespace SsaLens

open Json

def ViewEvent.toJson : ViewEvent → Json
  | highlight line fileName =>
      obj [("type", str "highlight"), ("line", ofLine line), ("fileName", str fileName)]
  | replace rows report line fileName =>
      obj [("type", str "updateSSA"), ("ssaText", ofStrings rows),
        ("inlineDecisions", report.toJson), ("line", ofOption ofLine line),
        ("fileName", str fileName)]

/-- Read an event. The line of a rebuilt listing may be missing; its report has to be empty. -/
def ViewEvent.ofJson? (json : Json) : Option ViewEvent := do
  let (type, body) ← json.tagged? "type"
  if type = "highlight" then
    match ← body.fields? ["line", "fileName"] with
    | [line, fileName] => pure (.highlight (← (← line).asLine?) (← (← fileName).asString?))
    | _ => none
  else if type = "updateSSA" then
    match ← body.fields? ["ssaText", "inlineDecisions", "line", "fileName"] with
    | [rows, report, line, fileName] =>
        pure (.replace (← (← rows).asList? asString?) (← Report.ofTaggedJson? (← report))
          (← optional? asLine? line) (← (← fileName).asString?))
    | _ => none
  else none

def View.toJson (view : View) : Json :=
  obj [("function", str view.function), ("sourceFileName", str view.fileName),
    ("ssaText", ofStrings view.dump), ("inlineDecisions", view.report.toJson),
    ("rows", arr (view.rows.map Row.toJson)), ("highlight", ofOption ofLine view.highlight)]

end SsaLens
