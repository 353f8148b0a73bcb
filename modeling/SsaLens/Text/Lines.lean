/-! # Lines

Two ways to cut a text at its newlines: into all pieces between newlines, and into lines,
where a newline ends a line, a carriage return before it belongs to it, and nothing after
the last newline is no line.
-/

namespace SsaLens.Text

/-- The pieces between newlines, as the first one and the others. -/
def cut : List Char → List Char × List (List Char)
  | [] => ([], [])
  | c :: rest =>
      if c = '\n' then ([], (cut rest).1 :: (cut rest).2)
      else (c :: (cut rest).1, (cut rest).2)

/-- The pieces between newlines; there is one more than newlines. -/
def pieces (text : List Char) : List (List Char) := (cut text).1 :: (cut text).2

/-- Remove one carriage return from the end. -/
def dropReturn (line : List Char) : List Char :=
  if line.getLast? = some '\r' then line.dropLast else line

/-- The lines of a text. The last one may lack its newline, and then keeps its carriage return. -/
def lines (text : List Char) : List (List Char) :=
  let parts := pieces text
  parts.dropLast.map dropReturn ++ parts.getLast?.toList.filter (· ≠ [])

/-- Join with one newline between neighbours. -/
def joined (lines : List String) : String := "\n".intercalate lines

/-- The first piece ends before the first newline. -/
theorem pieces_append_newline (first rest : List Char) (h : '\n' ∉ first) :
    pieces (first ++ '\n' :: rest) = first :: pieces rest := by
  induction first with
  | nil => simp [pieces, cut]
  | cons c tail ih =>
      obtain ⟨hc, htail⟩ := not_or.mp (fun hmem => h (List.mem_cons.mpr hmem))
      have := ih htail
      simp only [pieces, List.cons.injEq] at this
      simp [pieces, cut, Ne.symm hc, this]

/-- A text without a newline is one piece. -/
theorem pieces_of_not_mem {text : List Char} (h : '\n' ∉ text) : pieces text = [text] := by
  induction text with
  | nil => rfl
  | cons c tail ih =>
      obtain ⟨hc, htail⟩ := not_or.mp (fun hmem => h (List.mem_cons.mpr hmem))
      have := ih htail
      simp only [pieces, List.cons.injEq] at this
      simp [pieces, cut, Ne.symm hc, this]

/-- The first line is the text before the first newline, without a carriage return at its end. -/
theorem lines_append_newline (first rest : List Char) (h : '\n' ∉ first) :
    lines (first ++ '\n' :: rest) = dropReturn first :: lines rest := by
  simp only [lines, pieces_append_newline first rest h]
  simp [pieces]

end SsaLens.Text
