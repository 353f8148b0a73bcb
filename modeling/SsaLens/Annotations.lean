import SsaLens.Report

/-! # Annotations of files

Annotations of a file are switched on and off. Switching on marks the file at once; its
report arrives in a second step, which is dropped unless the file is still waiting.
-/

namespace SsaLens

/-- The annotations of a file that is switched on. -/
inductive FileAnnotations where
  | pending
  | ready (report : Report)
  deriving DecidableEq

/-- What a switch did. -/
inductive Switched where
  | shown
  | hidden
  deriving DecidableEq, Repr

/-- The files that are switched on. -/
abbrev Annotations := SortedMap String FileAnnotations

namespace Annotations

def isShown (annotations : Annotations) (fileName : String) : Bool := annotations.contains fileName

/-- The report of a file that is switched on and no longer waiting. -/
def report? (annotations : Annotations) (fileName : String) : Option Report :=
  match annotations.get? fileName with
  | some (.ready report) => some report
  | _ => none

/-- The files that are switched on, in order. -/
def shownFiles (annotations : Annotations) : List String := annotations.keys

/-- The first step of a switch: a shown file is hidden, a hidden one waits for its report. -/
def enter (annotations : Annotations) (fileName : String) : Annotations × Switched :=
  if annotations.isShown fileName then (annotations.erase fileName, .hidden)
  else (annotations.insert fileName .pending, .shown)

/-- The second step of a switch: the report reaches a file that waits for one. -/
def deliver (annotations : Annotations) (fileName : String) (report : Report) : Annotations :=
  match annotations.get? fileName with
  | some .pending => annotations.insert fileName (.ready report)
  | _ => annotations

/-- Replace the report of a file that is switched on. -/
def refresh (annotations : Annotations) (fileName : String) (report : Report) : Annotations :=
  if annotations.isShown fileName then annotations.insert fileName (.ready report) else annotations

end Annotations

end SsaLens
