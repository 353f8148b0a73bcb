import SsaLens.Symbol
import SsaLens.Text.Blank
import SsaLens.Text.Lines

/-! # Dumps

The compiler's output holds the SSA of a function as a region: a line `genssa` with the
symbol, a line with the source file, the listing, and the start of a line `dumped SSA`.
-/

namespace SsaLens

open Text

/-- The SSA listing of one function and the workspace name of its source file. -/
structure Dump where
  rows : List String
  fileName : String
  deriving DecidableEq, Repr

namespace Dump

def opening : List Char := "genssa ".toList

def closing : List Char := "dumped SSA".toList

/-- The listing as one text. -/
def body (dump : Dump) : String := joined dump.rows

/-- The text from the first opening of a symbol up to the first closing after it. -/
def region? (output symbol : List Char) : Option (List Char) := do
  let (_, found) ← split? (opening ++ symbol) output
  let (region, _) ← split? closing found
  pure region

/-- The lines of a region without the empty rest before the closing line. -/
def regionLines (region : List Char) : List (List Char) :=
  let parts := (pieces region).map dropReturn
  if 2 < parts.length ∧ parts.getLast? = some [] then parts.dropLast else parts

/-- The workspace name in a header such as `# ./pkg/a.go`. -/
def fileNameOf (header : List Char) : String :=
  String.ofList ('/' :: trim (removeFirst ['.', '/'] (removeFirst ['#'] header)))

/-- The second line of a region names the file, or the first if it is the only one; the others
are the listing. -/
def ofLines : List (List Char) → Dump
  | [] => ⟨[], fileNameOf []⟩
  | [only] => ⟨[], fileNameOf only⟩
  | _ :: header :: rows => ⟨rows.map String.ofList, fileNameOf header⟩

/-- The dump of a function in the compiler's output. -/
def extract (output identifier : String) : Option Dump :=
  (region? output.toList (Symbol.bareChars identifier.toList)).map (ofLines ∘ regionLines)

end Dump

end SsaLens
