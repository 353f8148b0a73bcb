/-! # Positions in documents

An editor counts the lines of a document from zero and the columns of a line in UTF-16 code
units. A line ends at a carriage return, a newline, or both in that order.
-/

namespace SsaLens.Text

/-- The number of UTF-16 code units of a character. -/
def units (c : Char) : Nat := if c.toNat < 0x10000 then 1 else 2

/-- The first line of a document, without its ending, and the others. -/
def cutDocument : List Char → List Char × List (List Char)
  | [] => ([], [])
  | '\r' :: '\n' :: rest => ([], (cutDocument rest).1 :: (cutDocument rest).2)
  | c :: rest =>
      if c = '\n' ∨ c = '\r' then ([], (cutDocument rest).1 :: (cutDocument rest).2)
      else (c :: (cutDocument rest).1, (cutDocument rest).2)

/-- The lines of a document; there is one more than line endings. -/
def documentLines (text : List Char) : List (List Char) := (cutDocument text).1 :: (cutDocument text).2

/-- The column after the last character of a line. -/
def endColumn (line : List Char) : Nat := (line.map units).foldr (· + ·) 0

end SsaLens.Text
