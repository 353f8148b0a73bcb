import SsaLens.Json.Decode
import SsaLens.Verdict

/-! # Verdict records

A verdict travels as a record with two flags, the fields that its kind has, and the budget.
Reading accepts more than is written: both flags may be set, fields may be missing or null,
and any budget is taken.
-/

namespace SsaLens.Verdict

open Json

def toJson : Verdict → Json
  | canInline name cost shape =>
      obj [("name", str name), ("canInline", bool true), ("isInlined", bool false),
        ("cost", str cost), ("as", str shape), ("maxBudget", ofLine budget)]
  | inlinedCall name =>
      obj [("name", str name), ("canInline", bool false), ("isInlined", bool true),
        ("maxBudget", ofLine budget)]
  | cannotInline name reason cost =>
      obj ([("name", str name), ("canInline", bool false), ("isInlined", bool false)] ++
        (cost.map fun cost => ("cost", str cost)).toList ++
        [("reason", str reason), ("maxBudget", ofLine budget)])

/-- The verdict that flags and fields make. Of two set flags the inlinable one counts; a missing
text is empty, but a function that is not inlinable may lack a cost. -/
def ofFields (name : String) (inlinable inlined : Bool) (cost shape reason : Option String) :
    Verdict :=
  if inlinable then canInline name (cost.getD "") (shape.getD "")
  else if inlined then inlinedCall name
  else cannotInline name (reason.getD "") cost

/-- Read a record. -/
def ofJson? (json : Json) : Option Verdict := do
  match ← json.fields? ["name", "canInline", "isInlined", "cost", "as", "reason", "maxBudget"] with
  | [name, inlinable, inlined, cost, shape, reason, allowance] =>
      let _ ← default? budget asLine? allowance
      pure (ofFields (← (← name).asString?) (← (← inlinable).asBool?) (← (← inlined).asBool?)
        (← optional? asString? cost) (← optional? asString? shape) (← optional? asString? reason))
  | _ => none

end SsaLens.Verdict
