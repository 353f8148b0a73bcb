import SsaLens.Report
import SsaLens.Text.Find

/-! # Annotated listings

The rows of a dump with each verdict above the first row of its source line. A row names
its source line in parentheses.
-/

namespace SsaLens

open Text

/-- A row of an annotated listing: a verdict, or a row of the dump with its position there. -/
inductive Row where
  | verdict (line : UInt32) (text : String)
  | ssa (index : Nat) (line : Option UInt32) (text : String)
  deriving DecidableEq, Repr

namespace Row

def text : Row → String
  | verdict _ text | ssa _ _ text => text

def isSsa : Row → Bool
  | ssa .. => true
  | verdict .. => false

/-- The digits of a parenthesised number that the text begins with; blanks may surround them. -/
def parenthesised? : List Char → Option (List Char)
  | '(' :: rest =>
      let body := rest.dropWhile isBlank
      let digits := body.takeWhile isDigit
      if digits ≠ [] ∧ ((body.dropWhile isDigit).dropWhile isBlank).head? = some ')' then some digits
      else none
  | _ => none

/-- The digits of the leftmost parenthesised number. -/
def firstNumber? : List Char → Option (List Char)
  | [] => none
  | c :: rest => parenthesised? (c :: rest) <|> firstNumber? rest

/-- The source line of a dump row. A leftmost number that is no line number hides the others. -/
def sourceLine? (text : String) : Option UInt32 := (firstNumber? text.toList).bind readLine?

/-- The row holds a line number in parentheses, without blanks. -/
def mentions (text : String) (line : UInt32) : Bool :=
  occurs ('(' :: numeral line.toNat ++ [')']) text.toList

/-- The row is one of the dump and mentions the highlighted line. -/
def isHighlighted (highlight : Option UInt32) : Row → Bool
  | ssa _ _ text => highlight.any (mentions text)
  | verdict .. => false

/-- Rows of a dump from an index on, annotated with the verdicts of lines not seen before. -/
def annotateFrom (report : Report) (index : Nat) (seen : List UInt32) : List String → List Row
  | [] => []
  | text :: rest =>
      let line := sourceLine? text
      let fresh := line.filter (!seen.contains ·)
      match fresh.bind fun number => (report.get? number).map (number, ·) with
      | some (number, found) =>
          .verdict number found.describe :: .ssa index line text ::
            annotateFrom report (index + 1) (number :: seen) rest
      | none => .ssa index line text :: annotateFrom report (index + 1) seen rest

/-- Put the verdict of each source line above the first row of that line. -/
def annotate (dump : List String) (report : Report) : List Row := annotateFrom report 0 [] dump

/-- The printed form of a row: a remark, or a marker column and the text. -/
def print (highlight : Option UInt32) (row : Row) : String :=
  match row with
  | verdict _ text => "  # " ++ text ++ "\n"
  | ssa _ _ text => (if row.isHighlighted highlight then "> " else "  ") ++ text ++ "\n"

/-- A listing as text; verdicts may be left out. -/
def printAll (rows : List Row) (highlight : Option UInt32) (showVerdicts : Bool) : String :=
  String.join ((rows.filter fun row => row.isSsa || showVerdicts).map (print highlight))

end Row

end SsaLens
