import SsaLens.Annotations

/-! # Nested runs of annotation actions

The report of a file that is switched on takes time, in which other actions run: an action
therefore carries those that run between its two steps.
-/

namespace SsaLens.Annotations

/-- An action on the annotations. The actions `during` a toggle run before its report arrives,
and only if it switches the file on. -/
inductive Action where
  | toggle (fileName : String) (during : List Action) (report : Report)
  | refresh (fileName : String) (report : Report)
  | look (fileName : String)

/-- What an action answers. -/
inductive Answer where
  | switched (result : Switched)
  | refreshed (shown : Bool)
  | looked

/-- The answer of an action and the state of its file afterwards, with what the actions
during it saw if its report was computed. -/
inductive Observation where
  | mk (answer : Answer) (during : Option (List Observation)) (isShown : Bool)
      (report : Option Report) (shownFiles : List String)

/-- What is seen of a file once an action has ended. -/
def observe (annotations : Annotations) (fileName : String) (answer : Answer)
    (during : Option (List Observation)) : Observation :=
  .mk answer during (annotations.isShown fileName) (annotations.report? fileName)
    annotations.shownFiles

mutual

/-- Perform an action and the actions during it. -/
def Action.perform (annotations : Annotations) : Action → Annotations × Observation
  | .toggle fileName during report =>
      match annotations.enter fileName with
      | (entered, .hidden) => (entered, entered.observe fileName (.switched .hidden) none)
      | (entered, .shown) =>
          let (waiting, seen) := performAll entered during
          let after := waiting.deliver fileName report
          (after, after.observe fileName (.switched .shown) (some seen))
  | .refresh fileName report =>
      let after := annotations.refresh fileName report
      (after, after.observe fileName (.refreshed (annotations.isShown fileName)) none)
  | .look fileName => (annotations, annotations.observe fileName .looked none)

/-- Perform actions one after the other. -/
def performAll (annotations : Annotations) : List Action → Annotations × List Observation
  | [] => (annotations, [])
  | action :: rest =>
      let (after, observation) := action.perform annotations
      let (final, others) := performAll after rest
      (final, observation :: others)

end

end SsaLens.Annotations
