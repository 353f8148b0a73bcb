import SsaLens.Json.Decode
import SsaLens.Row

/-! # Row records

A row travels as a record that is tagged with its kind.
-/

namespace SsaLens.Row

open Json

def toJson : Row → Json
  | verdict line text =>
      obj [("kind", str "decision"), ("sourceLine", ofLine line), ("text", str text)]
  | ssa index line text =>
      obj [("kind", str "ssa"), ("index", ofNat index), ("sourceLine", ofOption ofLine line),
        ("text", str text)]

/-- Read a row. The source line of a row of the dump may be missing. -/
def ofJson? (json : Json) : Option Row := do
  let (kind, body) ← json.tagged? "kind"
  if kind = "decision" then
    match ← body.fields? ["sourceLine", "text"] with
    | [line, text] => pure (.verdict (← (← line).asLine?) (← (← text).asString?))
    | _ => none
  else if kind = "ssa" then
    match ← body.fields? ["index", "sourceLine", "text"] with
    | [index, line, text] =>
        pure (.ssa (← (← index).asNat?) (← optional? asLine? line) (← (← text).asString?))
    | _ => none
  else none

end SsaLens.Row
