import SsaLens.View.Record

/-! # Messages to the client

What the server tells or asks its client on its own account.
-/

namespace SsaLens

/-- A listing as the client shows it. -/
structure Listing where
  function : String
  text : String
  report : Report
  rows : List Row
  line : Option UInt32
  fileName : String
  highlightedRows : List Nat
  deriving DecidableEq

/-- The mark of the current line in a listing. -/
structure Mark where
  function : String
  line : UInt32
  fileName : String
  highlightedRows : List Nat
  deriving DecidableEq

inductive Push where
  | listing (listing : Listing)
  | mark (mark : Mark)
  | hintsChanged
  | failure (message : String)
  | note (message : String)
  | askSettings
  deriving DecidableEq

namespace View

/-- The listing that shows a view. -/
def listing (view : View) : Listing where
  function := view.function
  text := Text.joined view.dump
  report := view.report
  rows := view.rows
  line := view.highlight
  fileName := view.fileName
  highlightedRows := view.highlightedRows

/-- The mark of a line in the listing of a view. -/
def mark (view : View) (line : UInt32) : Mark where
  function := view.function
  line := line
  fileName := view.fileName
  highlightedRows := view.highlightedRows

end View

open Json

def Listing.toJson (listing : Listing) : Json :=
  obj [("function", str listing.function), ("ssa", str listing.text),
    ("inlineDecisions", listing.report.toJson), ("rendered", arr (listing.rows.map Row.toJson)),
    ("line", ofOption ofLine listing.line), ("fileName", str listing.fileName),
    ("highlightedRows", arr (listing.highlightedRows.map ofNat))]

def Mark.toJson (mark : Mark) : Json :=
  obj [("function", str mark.function), ("line", ofLine mark.line),
    ("fileName", str mark.fileName), ("highlightedRows", arr (mark.highlightedRows.map ofNat))]

namespace Push

def method : Push → String
  | listing _ => "goSsaExplorer/updateSSA"
  | mark _ => "goSsaExplorer/highlight"
  | hintsChanged => "workspace/inlayHint/refresh"
  | failure _ => "window/showMessage"
  | note _ => "window/logMessage"
  | askSettings => "workspace/configuration"

def params : Push → Json
  | listing content => content.toJson
  | mark content => content.toJson
  | hintsChanged => null
  | failure message => obj [("type", ofNat 1), ("message", str message)]
  | note message => obj [("type", ofNat 3), ("message", str message)]
  | askSettings => obj [("items", arr [obj [("section", str "goSsaExplorer")]])]

end Push

end SsaLens
