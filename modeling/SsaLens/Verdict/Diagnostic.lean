import SsaLens.Text.Blank
import SsaLens.Text.Decimal
import SsaLens.Text.Find
import SsaLens.Verdict

/-! # Diagnostics

A diagnostic is `file:line:column:` and a message in one of three forms. The forms are
tried in turn. A form is read at the shortest file part that lets it match, and the first
form that matches anywhere decides.
-/

namespace SsaLens.Diagnostic

open Text

/-- The message of an inlinable function, with the blanks in front of it. -/
def inlinable? (message : List Char) : Option Verdict := do
  let spoken := message.dropWhile isBlank
  let subject ← after? "can inline ".toList spoken
  let name := subject.takeWhile (!isBlank ·)
  let costs ← after? " with cost ".toList (subject.dropWhile (!isBlank ·))
  let cost := costs.takeWhile isDigit
  let shape ← after? " as: ".toList (costs.dropWhile isDigit)
  if spoken.length < message.length ∧ name ≠ [] ∧ cost ≠ [] ∧ shape ≠ [] ∧ '\n' ∉ shape then
    some (.canInline (String.ofList name) (String.ofList cost) (String.ofList shape))
  else none

/-- The digits of the first `cost` that a number follows. -/
def quotedCost? : List Char → Option (List Char)
  | [] => none
  | c :: rest =>
      match after? "cost ".toList (c :: rest) with
      | some tail =>
          if (tail.takeWhile isDigit).isEmpty then quotedCost? rest else some (tail.takeWhile isDigit)
      | none => quotedCost? rest

/-- A word before the last colon of the text's first word, and the text after that colon. -/
def beforeLastColon? (text : List Char) : Option (List Char × List Char) :=
  let word := text.takeWhile (!isBlank ·)
  let last := word.reverse.takeWhile (· ≠ ':')
  let name := (word.reverse.drop (last.length + 1)).reverse
  if name = [] then none else some (name, text.drop (name.length + 1))

/-- The message of a function that is not inlinable. -/
def refused? (message : List Char) : Option Verdict := do
  let subject ← after? " cannot inline ".toList message
  let (name, tail) ← beforeLastColon? subject
  let spoken := tail.dropWhile isBlank
  if '\n' ∉ spoken then
    let reason := trimEnd spoken
    some (.cannotInline (String.ofList name) (String.ofList reason)
      ((quotedCost? reason).map String.ofList))
  else none

/-- The message of an inlined call. -/
def inlinedCall? (message : List Char) : Option Verdict := do
  let name ← after? " inlining call to ".toList message
  if name ≠ [] ∧ name.all (!isBlank ·) then some (.inlinedCall (String.ofList name)) else none

/-- A line and a column between colons: the digits of the line, and the text that follows. -/
def position? (text : List Char) : Option (List Char × List Char) := do
  let line := text.takeWhile isDigit
  let column ← after? [':'] (text.dropWhile isDigit)
  let message ← after? [':'] (column.dropWhile isDigit)
  if line ≠ [] ∧ column.takeWhile isDigit ≠ [] then some (line, message) else none

/-- Read a message form after the shortest file part, which is not empty and holds no newline,
that a position and the form can follow. -/
def located? (form : List Char → Option Verdict) : List Char → Option (List Char × Verdict)
  | [] => none
  | c :: rest =>
      if c = '\n' then none
      else
        let here := do
          let (line, message) ← (after? [':'] rest).bind position?
          let verdict ← form message
          pure (line, verdict)
        here <|> located? form rest

/-- The line number and verdict of a diagnostic. A line number that cannot be read leaves the
diagnostic unclassified: the other forms are not tried. -/
def classify (line : String) : Option (UInt32 × Verdict) := do
  let (digits, verdict) ← located? inlinable? line.toList <|> located? refused? line.toList <|>
    located? inlinedCall? line.toList
  let number ← readLine? digits
  pure (number, verdict)

end SsaLens.Diagnostic
