import SsaLens.Proofs.Text.Occurrence

/-! # Line endings

A text can end its lines with newlines, or with a carriage return before each of them. Its lines are
the same either way, and so are its pieces once their last carriage return is dropped. A pattern that
has no character of a line ending is found at the same place.
-/

namespace SsaLens.Text

/-- A text with a carriage return before every newline. -/
def addReturns (text : List Char) : List Char :=
  text.flatMap fun c => if c = '\n' then ['\r', '\n'] else [c]

/-- Newlines stand alone: none of them has a carriage return before it. -/
def PlainEndings (text : List Char) : Prop := ¬ ['\r', '\n'] <:+: text

instance (text : List Char) : Decidable (PlainEndings text) :=
  inferInstanceAs (Decidable (¬ ['\r', '\n'] <:+: text))

@[simp] theorem addReturns_append (first rest : List Char) :
    addReturns (first ++ rest) = addReturns first ++ addReturns rest := List.flatMap_append

theorem addReturns_cons {c : Char} (hc : c ≠ '\n') (rest : List Char) :
    addReturns (c :: rest) = c :: addReturns rest := by
  simp [addReturns, hc]

theorem addReturns_newline (rest : List Char) :
    addReturns ('\n' :: rest) = '\r' :: '\n' :: addReturns rest := by
  simp [addReturns]

theorem addReturns_of_notMem {text : List Char} (h : '\n' ∉ text) : addReturns text = text := by
  induction text with
  | nil => rfl
  | cons c rest ih =>
      obtain ⟨hc, hrest⟩ := not_or.mp (mt List.mem_cons.mpr h)
      rw [addReturns_cons (Ne.symm hc), ih hrest]

theorem addReturns_append_newline {first : List Char} (h : '\n' ∉ first) (rest : List Char) :
    addReturns (first ++ '\n' :: rest) = (first ++ ['\r']) ++ '\n' :: addReturns rest := by
  rw [addReturns_append, addReturns_of_notMem h, addReturns_newline, List.append_cons]

/-! ## Lines and pieces -/

theorem PlainEndings.of_infix {part text : List Char} (h : PlainEndings text) (hpart : part <:+: text) :
    PlainEndings part := by
  intro hwithin
  exact h (hwithin.trans hpart)

theorem PlainEndings.rest {first rest : List Char} (h : PlainEndings (first ++ '\n' :: rest)) :
    PlainEndings rest :=
  h.of_infix ((List.suffix_cons '\n' rest).trans (List.suffix_append first _)).isInfix

theorem dropReturn_concat (line : List Char) : dropReturn (line ++ ['\r']) = line := by
  rw [dropReturn, if_pos List.getLast?_concat, List.dropLast_concat]

theorem PlainEndings.dropReturn_eq {first rest : List Char}
    (h : PlainEndings (first ++ '\n' :: rest)) : dropReturn first = first := by
  unfold dropReturn
  split
  next hlast =>
    obtain ⟨init, rfl⟩ := List.getLast?_eq_some_iff.mp hlast
    exact absurd ⟨init, rest, by simp⟩ h
  next => rfl

theorem return_line_one_line {first : List Char} (h : '\n' ∉ first) : '\n' ∉ first ++ ['\r'] := by
  rw [List.mem_append, not_or]
  exact ⟨h, by decide⟩

/-- The lines of a text are the same with either line ending. -/
theorem lines_addReturns {text : List Char} (h : PlainEndings text) :
    lines (addReturns text) = lines text := by
  induction text using piecewise with
  | last text htext => rw [addReturns_of_notMem htext]
  | line first rest hfirst ih =>
      rw [addReturns_append_newline hfirst, lines_append_newline _ _ (return_line_one_line hfirst),
        lines_append_newline _ _ hfirst, dropReturn_concat, h.dropReturn_eq, ih h.rest]

/-- Only the last piece keeps its end, and it has no newline to be changed. -/
theorem map_dropReturn_pieces_addReturns {text : List Char} (h : PlainEndings text) :
    (pieces (addReturns text)).map dropReturn = (pieces text).map dropReturn := by
  induction text using piecewise with
  | last text htext => rw [addReturns_of_notMem htext]
  | line first rest hfirst ih =>
      rw [addReturns_append_newline hfirst, pieces_append_newline _ _ (return_line_one_line hfirst),
        pieces_append_newline _ _ hfirst, List.map_cons, List.map_cons, dropReturn_concat,
        h.dropReturn_eq, ih h.rest]

/-! ## Searches -/

/-- A pattern within lines: it is not empty and has no character of a line ending. -/
structure WithinLine (pattern : List Char) : Prop where
  ne_nil : pattern ≠ []
  newline_notMem : '\n' ∉ pattern
  return_notMem : '\r' ∉ pattern

namespace WithinLine

variable {pattern : List Char}

theorem not_prefix_cons {c : Char} {rest : List Char} (h : WithinLine pattern) (hc : c ∉ pattern) :
    ¬ pattern <+: c :: rest := by
  intro hbegins
  obtain ⟨d, tail, rfl⟩ := List.exists_cons_of_ne_nil h.ne_nil
  rw [List.cons_prefix_cons] at hbegins
  exact hc (hbegins.1 ▸ List.mem_cons_self)

theorem prefix_addReturns_iff (h : WithinLine pattern) {text : List Char} :
    pattern <+: addReturns text ↔ pattern <+: text := by
  induction text using piecewise with
  | last text htext => rw [addReturns_of_notMem htext]
  | line first rest hfirst _ =>
      -- on either side the pattern has to end before the line does
      rw [addReturns_append_newline hfirst, prefix_append_cons_iff h.newline_notMem,
        prefix_append_cons_iff h.newline_notMem, prefix_append_cons_iff h.return_notMem]

/-- A pattern within a line is found at the same place with either line ending. -/
theorem split?_addReturns (h : WithinLine pattern) (text : List Char) :
    split? pattern (addReturns text) =
      (split? pattern text).map fun found => (addReturns found.1, addReturns found.2) := by
  induction text with
  | nil => simp [addReturns, split?, h.ne_nil]
  | cons c rest ih =>
      by_cases hc : c = '\n'
      · rw [hc, addReturns_newline, split?_cons_of_not_begins (h.not_prefix_cons h.return_notMem),
          split?_cons_of_not_begins (h.not_prefix_cons h.newline_notMem),
          split?_cons_of_not_begins (h.not_prefix_cons h.newline_notMem), ih]
        simp [Function.comp_def, addReturns_newline]
      · by_cases hbegins : pattern <+: c :: rest
        · have hplain := split?_of_prefix hbegins
          have hreturned := split?_of_prefix (h.prefix_addReturns_iff.mpr hbegins)
          rw [hplain, hreturned]
          rfl
        · have hother : ¬ pattern <+: c :: addReturns rest := by
            rwa [← addReturns_cons hc, h.prefix_addReturns_iff]
          rw [addReturns_cons hc, split?_cons_of_not_begins hbegins,
            split?_cons_of_not_begins hother, ih]
          simp [Function.comp_def, addReturns_cons hc]

end WithinLine

/-- A text with a carriage return before every newline. -/
def withReturns (text : String) : String := String.ofList (addReturns text.toList)

theorem toList_withReturns (text : String) : (withReturns text).toList = addReturns text.toList :=
  String.toList_ofList

end SsaLens.Text
