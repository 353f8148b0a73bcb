/-! # First occurrences

Searching a text for a pattern from the left.
-/

namespace SsaLens.Text

/-- The text before the first occurrence of a pattern, and the text from its first character on. -/
def split? (pattern : List Char) : List Char → Option (List Char × List Char)
  | [] => if pattern = [] then some ([], []) else none
  | c :: rest =>
      if pattern.isPrefixOf (c :: rest) then some ([], c :: rest)
      else (split? pattern rest).map fun found => (c :: found.1, found.2)

/-- The text after a pattern that it begins with. -/
def after? (pattern text : List Char) : Option (List Char) :=
  if pattern.isPrefixOf text then some (text.drop pattern.length) else none

def occurs (pattern text : List Char) : Bool := (split? pattern text).isSome

/-- Remove the first occurrence of a pattern, if there is one. -/
def removeFirst (pattern text : List Char) : List Char :=
  match split? pattern text with
  | some (before, found) => before ++ found.drop pattern.length
  | none => text

/-- A text is split into what is in front of a pattern and what begins with it. -/
theorem split?_eq_append {pattern text before found : List Char}
    (h : split? pattern text = some (before, found)) :
    text = before ++ found ∧ pattern <+: found := by
  induction text generalizing before with
  | nil =>
      simp only [split?] at h
      split at h
      next hnil => simp_all
      next => simp at h
  | cons c rest ih =>
      simp only [split?] at h
      split at h
      next hpre =>
        obtain ⟨rfl, rfl⟩ := Prod.mk.inj (Option.some.inj h)
        exact ⟨rfl, List.isPrefixOf_iff_prefix.mp hpre⟩
      next =>
        obtain ⟨⟨front, back⟩, hrest, heq⟩ := Option.map_eq_some_iff.mp h
        obtain ⟨rfl, rfl⟩ := Prod.mk.inj heq
        obtain ⟨happ, hpre⟩ := ih hrest
        exact ⟨by simp [happ], hpre⟩

/-- A pattern occurs exactly if it is an infix. -/
theorem occurs_iff {pattern text : List Char} : occurs pattern text = true ↔ pattern <:+: text := by
  induction text with
  | nil => by_cases h : pattern = [] <;> simp [occurs, split?, h]
  | cons c rest ih =>
      simp only [occurs, split?] at ih ⊢
      rw [List.infix_cons_iff, ← ih]
      split
      next h => simp [List.isPrefixOf_iff_prefix.mp h]
      next h => simp [mt List.isPrefixOf_iff_prefix.mpr h]

/-- What comes after a pattern is the text without it in front. -/
theorem after?_eq_some_iff {pattern text rest : List Char} :
    after? pattern text = some rest ↔ text = pattern ++ rest := by
  unfold after?
  constructor
  · intro h
    split at h
    next hpre =>
      obtain ⟨tail, rfl⟩ := List.isPrefixOf_iff_prefix.mp hpre
      simpa using h
    next => simp at h
  · rintro rfl
    simp [List.isPrefixOf_iff_prefix]

end SsaLens.Text
