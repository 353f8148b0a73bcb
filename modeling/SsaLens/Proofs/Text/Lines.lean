import Mathlib.Data.List.Infix
import SsaLens.Text.Lines

/-! # Texts as lines

A text is its last piece behind lines that a newline ends. A pattern without a newline stands in a
text only within one of its pieces.
-/

namespace SsaLens.Text

/-- Induction over a text along its newlines. -/
theorem piecewise {motive : List Char → Prop} (last : ∀ text, '\n' ∉ text → motive text)
    (line : ∀ first rest, '\n' ∉ first → motive rest → motive (first ++ '\n' :: rest))
    (text : List Char) : motive text := by
  -- a text is taken in with a part of its first piece in front, so that this part can grow
  suffices h : ∀ first, '\n' ∉ first → motive (first ++ text) from h [] List.not_mem_nil
  induction text with
  | nil => exact fun first hfirst => last _ (by simpa using hfirst)
  | cons c rest ih =>
      intro first hfirst
      by_cases hc : c = '\n'
      · rw [hc]
        exact line first rest hfirst (ih [] List.not_mem_nil)
      · rw [List.append_cons]
        exact ih _ (by simpa using ⟨hfirst, Ne.symm hc⟩)

/-- Lines as a text: a newline ends each of them. -/
def written (lines : List (List Char)) : List Char := lines.flatMap (· ++ ['\n'])

@[simp] theorem written_nil : written [] = [] := rfl

@[simp] theorem written_cons (line : List Char) (lines : List (List Char)) :
    written (line :: lines) = line ++ '\n' :: written lines := by
  simp [written]

@[simp] theorem written_append (first second : List (List Char)) :
    written (first ++ second) = written first ++ written second := List.flatMap_append

theorem pieces_written_append {lines : List (List Char)} (h : ∀ line ∈ lines, '\n' ∉ line)
    (rest : List Char) : pieces (written lines ++ rest) = lines ++ pieces rest := by
  induction lines with
  | nil => rfl
  | cons line lines ih =>
      obtain ⟨hline, hlines⟩ := List.forall_mem_cons.mp h
      rw [written_cons, List.append_assoc, List.cons_append, pieces_append_newline _ _ hline,
        ih hlines, List.cons_append]

theorem lines_written_append {kept : List (List Char)} (h : ∀ line ∈ kept, '\n' ∉ line)
    {last : List Char} (hlast : '\n' ∉ last) :
    lines (written kept ++ last) =
      kept.map dropReturn ++ [last].filter (· ≠ []) := by
  rw [lines, pieces_written_append h, pieces_of_not_mem hlast]
  simp

/-- The text is made of whole lines: it is empty, or a newline ends it. -/
def WholeLines (text : List Char) : Prop := text = [] ∨ text.getLast? = some '\n'

instance (text : List Char) : Decidable (WholeLines text) :=
  inferInstanceAs (Decidable (text = [] ∨ text.getLast? = some '\n'))

theorem WholeLines.rest {first rest : List Char} (h : WholeLines (first ++ '\n' :: rest)) :
    WholeLines rest := by
  rcases h with hnil | hlast
  · exact absurd hnil (List.append_ne_nil_of_right_ne_nil first (List.cons_ne_nil '\n' rest))
  · cases rest with
    | nil => exact Or.inl rfl
    | cons c rest =>
        refine Or.inr ?_
        rwa [List.getLast?_append_of_ne_nil _ (List.cons_ne_nil _ _), List.getLast?_cons_cons] at hlast

/-- Lines go on behind whole lines as they would by themselves. -/
theorem lines_append {first : List Char} (h : WholeLines first) (rest : List Char) :
    lines (first ++ rest) = lines first ++ lines rest := by
  induction first using piecewise with
  | last text htext =>
      rcases h with rfl | hlast
      · rfl
      · exact absurd (List.mem_of_getLast? hlast) htext
  | line first middle hfirst ih =>
      rw [List.append_assoc, List.cons_append, lines_append_newline _ _ hfirst,
        lines_append_newline _ _ hfirst, ih h.rest, List.cons_append]

/-- A text without the lines that a test refuses. A line goes with the newline that ends it. -/
def withoutLines (refused : List Char → Bool) (text : List Char) : List Char :=
  written ((pieces text).dropLast.filter fun piece => !refused (dropReturn piece)) ++
    ((pieces text).getLast?.toList.filter fun piece => !refused piece).flatten

theorem newline_notMem_of_mem_pieces {text piece : List Char} (h : piece ∈ pieces text) :
    '\n' ∉ piece := by
  induction text using piecewise with
  | last text htext =>
      rw [pieces_of_not_mem htext, List.mem_singleton] at h
      rwa [h]
  | line first rest hfirst ih =>
      rw [pieces_append_newline _ _ hfirst] at h
      rcases List.mem_cons.mp h with rfl | h
      · exact hfirst
      · exact ih h

/-- The lines that are left are those that the test does not refuse. -/
theorem lines_withoutLines (refused : List Char → Bool) (text : List Char) :
    lines (withoutLines refused text) = (lines text).filter fun line => !refused line := by
  obtain ⟨init, last, hparts⟩ : ∃ init last, pieces text = init ++ [last] :=
    ⟨_, _, (List.dropLast_append_getLast (List.cons_ne_nil _ _)).symm⟩
  have hone : ∀ piece ∈ init ++ [last], '\n' ∉ piece := fun piece hpiece =>
    newline_notMem_of_mem_pieces (hparts ▸ hpiece)
  obtain ⟨hinit, hlast⟩ := List.forall_mem_append.mp hone
  have hkept : ∀ piece ∈ init.filter (fun piece => !refused (dropReturn piece)), '\n' ∉ piece :=
    fun piece hpiece => hinit piece (List.mem_of_mem_filter hpiece)
  have hlines : lines text = init.map dropReturn ++ [last].filter (· ≠ []) := by
    rw [lines, hparts, List.dropLast_concat, List.getLast?_concat, Option.toList_some]
  have hleft : (lines text).filter (fun line => !refused line) =
      (init.filter fun piece => !refused (dropReturn piece)).map dropReturn ++
        ([last].filter fun line => !refused line).filter (· ≠ []) := by
    rw [hlines, List.filter_append, List.filter_map, List.filter_comm]
    rfl
  rw [withoutLines, hparts, List.dropLast_concat, List.getLast?_concat, Option.toList_some, hleft]
  by_cases hrefused : refused last = true
  · have hend := lines_written_append hkept List.not_mem_nil
    simpa [hrefused, List.filter_cons] using hend
  · have hend := lines_written_append hkept (hlast last List.mem_cons_self)
    simpa [hrefused, List.filter_cons] using hend

theorem prefix_append_cons_iff {pattern front rest : List Char} {c : Char} (hc : c ∉ pattern) :
    pattern <+: front ++ c :: rest ↔ pattern <+: front := by
  refine ⟨fun h => ?_, fun h => h.trans (List.prefix_append front _)⟩
  rcases Nat.lt_or_ge front.length pattern.length with hlt | hle
  · have hcut : front ++ [c] <+: pattern := by
      refine List.prefix_of_prefix_length_le ⟨rest, by simp⟩ h ?_
      rw [List.length_append, List.length_singleton]
      exact hlt
    exact absurd (hcut.subset (by simp)) hc
  · exact List.prefix_of_prefix_length_le h (List.prefix_append front _) hle

section Pattern

variable {pattern : List Char} (hpattern : '\n' ∉ pattern)

include hpattern

/-- A pattern without a newline stands in front of a newline or behind it. -/
theorem infix_append_newline_iff {front rest : List Char} :
    pattern <:+: front ++ '\n' :: rest ↔ pattern <:+: front ∨ pattern <:+: rest := by
  induction front with
  | nil =>
      have hbegins : pattern <+: [] ++ '\n' :: rest ↔ pattern <+: [] :=
        prefix_append_cons_iff hpattern
      rw [List.nil_append] at hbegins ⊢
      rw [List.infix_cons_iff, hbegins, List.prefix_nil, List.infix_nil]
  | cons c front ih =>
      rw [List.cons_append, List.infix_cons_iff, List.infix_cons_iff, ih, ← List.cons_append,
        prefix_append_cons_iff hpattern, or_assoc]

theorem infix_iff_exists_piece {text : List Char} :
    pattern <:+: text ↔ ∃ piece ∈ pieces text, pattern <:+: piece := by
  induction text using piecewise with
  | last text h => simp [pieces_of_not_mem h]
  | line first rest h ih => simp [pieces_append_newline _ _ h, infix_append_newline_iff hpattern, ih]

/-- A pattern without a newline stands in one of the lines. -/
theorem infix_written_iff (hne : pattern ≠ []) {lines : List (List Char)} :
    pattern <:+: written lines ↔ ∃ line ∈ lines, pattern <:+: line := by
  induction lines with
  | nil => simp [hne]
  | cons line lines ih => simp [infix_append_newline_iff hpattern, ih]

end Pattern

end SsaLens.Text
