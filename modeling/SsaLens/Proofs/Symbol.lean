import Mathlib.Data.List.TakeWhile
import SsaLens.Symbol

/-! # The characters of a symbol

The bare name of a function is a part of its identifier. It is a method, which stands in one line,
or it has no point.
-/

namespace SsaLens.Symbol

open Text

theorem newline_notMem_of_isMethod {text : List Char} (h : isMethod text = true) : '\n' ∉ text := by
  unfold isMethod at h
  split at h
  next rest =>
    simp only [Bool.and_eq_true, Bool.not_eq_true', List.contains_eq_mem, decide_eq_false_iff_not] at h
    simpa using h.1
  next => simp at h

theorem point_notMem_afterLastPoint (text : List Char) : '.' ∉ afterLastPoint text := by
  intro hmem
  have := List.mem_takeWhile_imp (List.mem_reverse.mp hmem)
  simp at this

theorem afterLastPoint_suffix (text : List Char) : afterLastPoint text <:+ text := by
  rw [← List.reverse_prefix, afterLastPoint, List.reverse_reverse]
  exact List.takeWhile_prefix _

theorem bareChars_subset (identifier : List Char) : bareChars identifier ⊆ identifier := by
  unfold bareChars
  split
  · exact List.Subset.refl identifier
  · exact (afterLastPoint_suffix identifier).subset

theorem bareChars_newline_or_point (identifier : List Char) :
    '\n' ∉ bareChars identifier ∨ '.' ∉ bareChars identifier := by
  unfold bareChars
  split
  next hmethod => exact Or.inl (newline_notMem_of_isMethod hmethod)
  next => exact Or.inr (point_notMem_afterLastPoint identifier)

end SsaLens.Symbol
