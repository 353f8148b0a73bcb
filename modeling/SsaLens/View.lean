import SsaLens.Dump
import SsaLens.Row

/-! # Views

A view shows the annotated listing of one function. It follows the events of its source
file and ignores those of others.
-/

namespace SsaLens

/-- What happens to a source file: the cursor is on a line, or its listing was rebuilt. -/
inductive ViewEvent where
  | highlight (line : UInt32) (fileName : String)
  | replace (rows : List String) (report : Report) (line : Option UInt32) (fileName : String)
  deriving DecidableEq

def ViewEvent.fileName : ViewEvent → String
  | highlight _ fileName | replace _ _ _ fileName => fileName

/-- The listing of one function, its annotations and the highlighted source line. -/
structure View where
  function : String
  fileName : String
  dump : List String
  report : Report
  rows : List Row
  highlight : Option UInt32
  deriving DecidableEq

namespace View

/-- A new view highlights no line. -/
def ofDump (function : String) (dump : Dump) (report : Report) : View where
  function := function
  fileName := dump.fileName
  dump := dump.rows
  report := report
  rows := Row.annotate dump.rows report
  highlight := none

/-- The positions of the highlighted rows. -/
def highlightedRows (view : View) : List Nat :=
  (view.rows.zipIdx.filter fun (row, _) => row.isHighlighted view.highlight).map (·.2)

/-- The event is about the view's source file. -/
def concerns (view : View) (event : ViewEvent) : Bool := event.fileName == view.fileName

/-- Follow an event of the view's file; a rebuilt listing replaces everything but the names. -/
def apply (view : View) (event : ViewEvent) : View :=
  if view.concerns event then
    match event with
    | .highlight line _ => { view with highlight := some line }
    | .replace dump report line _ =>
        { view with dump, report, rows := Row.annotate dump report, highlight := line }
  else view

/-- The view as a printed listing. -/
def print (view : View) (showVerdicts : Bool) : String :=
  Row.printAll view.rows view.highlight showVerdicts

end View

end SsaLens
