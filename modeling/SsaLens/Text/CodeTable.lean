/-! # Tables of code points

A table is written as lines of text. Its entries stand between blanks: a code point or a range of
them in hexadecimal digits, and what the table says about them after an equals sign. Code points
without an entry are not in the table.
-/

namespace SsaLens.Text

/-- The code points of a range, and what a table says about them. -/
structure CodeEntry where
  low : Nat
  high : Nat
  note : Option (List Char)
  deriving DecidableEq, Repr

abbrev CodeTable := List CodeEntry

/-- The value of a numeral of the digits `0` to `9` and `A` to `F`. -/
def codeValue (digits : List Char) : Nat :=
  digits.foldl (fun value c => value * 16 + if c.isDigit then c.toNat - 0x30 else c.toNat - 0x37) 0

def CodeEntry.ofText (text : List Char) : CodeEntry :=
  let codes := text.takeWhile (· ≠ '=')
  let low := codes.takeWhile (· ≠ '-')
  let high := codes.drop (low.length + 1)
  ⟨codeValue low, codeValue (if high = [] then low else high),
    if codes = text then none else some (text.drop (codes.length + 1))⟩

namespace CodeTable

def ofLines (lines : List String) : CodeTable :=
  lines.flatMap fun line => (line.splitOn " ").map fun entry => .ofText entry.toList

/-- The entry of a character. -/
def entry? (table : CodeTable) (c : Char) : Option CodeEntry :=
  table.find? fun entry => entry.low ≤ c.toNat && c.toNat ≤ entry.high

def holds (table : CodeTable) (c : Char) : Bool := (table.entry? c).isSome

/-- What the table says about a character. -/
def note? (table : CodeTable) (c : Char) : Option (List Char) := (table.entry? c).bind (·.note)

end CodeTable

end SsaLens.Text
