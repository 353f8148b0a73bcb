import SsaLens.Proofs.Text.Lines
import SsaLens.Text.Find

/-! # First occurrences

A search passes over a text in which the pattern begins nowhere, and so over lines that do not hold
it.
-/

namespace SsaLens.Text

variable {pattern : List Char}

theorem split?_of_prefix {text : List Char} (h : pattern <+: text) :
    split? pattern text = some ([], text) := by
  cases text with
  | nil => simp [split?, List.prefix_nil.mp h]
  | cons c rest => rw [split?, if_pos (List.isPrefixOf_iff_prefix.mpr h)]

theorem split?_cons_of_not_begins {c : Char} {rest : List Char} (h : ¬ pattern <+: c :: rest) :
    split? pattern (c :: rest) =
      (split? pattern rest).map fun found => (c :: found.1, found.2) := by
  rw [split?, if_neg (fun hbegins => h (List.isPrefixOf_iff_prefix.mp hbegins))]

/-- A search passes over a front within which the pattern begins nowhere. -/
theorem split?_append {front rest : List Char}
    (h : ∀ before after, front = before ++ after → after ≠ [] → ¬ pattern <+: after ++ rest) :
    split? pattern (front ++ rest) =
      (split? pattern rest).map fun found => (front ++ found.1, found.2) := by
  induction front with
  | nil => simp
  | cons c front ih =>
      have hhere : ¬ pattern <+: c :: (front ++ rest) := h [] (c :: front) rfl (List.cons_ne_nil c front)
      have hlater := ih fun before after heq => h (c :: before) after (by rw [heq]; rfl)
      rw [List.cons_append, split?_cons_of_not_begins hhere, hlater, Option.map_map]
      rfl

theorem not_prefix_drop_of_split? {text before found : List Char}
    (h : split? pattern text = some (before, found)) :
    ∀ skipped < before.length, ¬ pattern <+: text.drop skipped := by
  induction text generalizing before with
  | nil =>
      obtain ⟨hnil, -⟩ := split?_eq_append h
      obtain ⟨rfl, -⟩ := List.append_eq_nil_iff.mp hnil.symm
      exact fun skipped hskipped => absurd hskipped (Nat.not_lt_zero skipped)
  | cons c rest ih =>
      by_cases hbegins : pattern <+: c :: rest
      · have hfound := h.symm.trans <| split?_of_prefix hbegins
        obtain ⟨rfl, -⟩ := Prod.mk.inj (Option.some.inj hfound)
        exact fun skipped hskipped => absurd hskipped (Nat.not_lt_zero skipped)
      · rw [split?_cons_of_not_begins hbegins] at h
        obtain ⟨later, hlater, heq⟩ := Option.map_eq_some_iff.mp h
        obtain ⟨rfl, rfl⟩ := Prod.mk.inj heq
        intro skipped hskipped
        cases skipped with
        | zero => exact hbegins
        | succ skipped => exact ih hlater skipped (Nat.lt_of_succ_lt_succ hskipped)

/-- A search finds the first place where the pattern begins. -/
theorem split?_eq_some_iff {text before found : List Char} :
    split? pattern text = some (before, found) ↔ text = before ++ found ∧ pattern <+: found ∧
      ∀ skipped < before.length, ¬ pattern <+: text.drop skipped := by
  constructor
  · intro h
    obtain ⟨htext, hbegins⟩ := split?_eq_append h
    exact ⟨htext, hbegins, not_prefix_drop_of_split? h⟩
  · rintro ⟨rfl, hbegins, hfirst⟩
    rw [split?_append, split?_of_prefix hbegins, Option.map_some, List.append_nil]
    intro before' after hbefore hafter
    have hlength : before'.length < before.length := by
      rw [hbefore, List.length_append]
      exact Nat.lt_add_of_pos_right (List.length_pos_iff.mpr hafter)
    have hskipped := hfirst before'.length hlength
    rwa [hbefore, List.append_assoc, List.drop_left] at hskipped

/-- No occurrence of the pattern is in front of the one that a search finds. -/
theorem length_le_of_split? {before after front found : List Char}
    (h : split? pattern (before ++ (pattern ++ after)) = some (front, found)) :
    front.length ≤ before.length := by
  by_contra hlonger
  have hnone := not_prefix_drop_of_split? h before.length (Nat.not_le.mp hlonger)
  rw [List.drop_left] at hnone
  exact hnone (List.prefix_append pattern after)

theorem infix_iff_exists_drop {text : List Char} :
    pattern <:+: text ↔ ∃ skipped, pattern <+: text.drop skipped := by
  constructor
  · rintro ⟨before, after, rfl⟩
    refine ⟨before.length, ?_⟩
    rw [List.append_assoc, List.drop_left]
    exact List.prefix_append pattern after
  · rintro ⟨skipped, hbegins⟩
    exact hbegins.isInfix.trans (List.drop_suffix skipped text).isInfix

/-- A pattern does not begin in a front that has not its first character. -/
theorem infix_append_iff_of_notMem {c : Char} {front text : List Char} (hc : c ∉ front) :
    c :: pattern <:+: front ++ text ↔ c :: pattern <:+: text := by
  induction front with
  | nil => rfl
  | cons d front ih =>
      obtain ⟨hne, hfront⟩ := not_or.mp (fun hmem => hc (List.mem_cons.mpr hmem))
      rw [List.cons_append, List.infix_cons_iff, List.cons_prefix_cons, ih hfront]
      simp [hne]

/-- A search passes over a line that does not hold the beginning of the pattern. -/
theorem split?_append_newline {start front rest : List Char} (hstart : start <+: pattern)
    (hnewline : '\n' ∉ start) (h : ¬ start <:+: front) :
    split? pattern (front ++ '\n' :: rest) =
      (split? pattern rest).map fun found => (front ++ '\n' :: found.1, found.2) := by
  rw [List.append_cons, split?_append]
  · simp
  · intro before after heq hafter hbegins
    obtain hnil | ⟨init, c, rfl⟩ := List.eq_nil_or_concat' after
    · exact hafter hnil
    · rw [← List.append_assoc] at heq
      obtain ⟨rfl, hlast⟩ := List.append_inj' heq rfl
      rw [← hlast, List.append_assoc, List.singleton_append] at hbegins
      have hinit := (prefix_append_cons_iff hnewline).mp (hstart.trans hbegins)
      exact h (hinit.isInfix.trans (List.suffix_append before init).isInfix)

section Lines

variable (hpattern : '\n' ∉ pattern)

include hpattern

/-- A search passes over lines that do not have the pattern. -/
theorem split?_written_append {lines : List (List Char)} (rest : List Char)
    (h : ∀ line ∈ lines, ¬ pattern <:+: line) :
    split? pattern (written lines ++ rest) =
      (split? pattern rest).map fun found => (written lines ++ found.1, found.2) := by
  induction lines with
  | nil => simp
  | cons line lines ih =>
      obtain ⟨hline, hlines⟩ := List.forall_mem_cons.mp h
      rw [written_cons, List.append_assoc, List.cons_append,
        split?_append_newline List.prefix_rfl hpattern hline, ih hlines, Option.map_map]
      simp [Function.comp_def]

/-- Behind a text that is empty or ends in a newline, and has no occurrence of a pattern in a line, the
first occurrence is the one that begins there. -/
theorem split?_append_of_prefix {front rest : List Char}
    (hend : front = [] ∨ front.getLast? = some '\n')
    (hfront : ∀ line ∈ pieces front, ¬ pattern <:+: line) (hrest : pattern <+: rest) :
    split? pattern (front ++ rest) = some (front, rest) := by
  rcases hend with rfl | hend
  · exact split?_of_prefix hrest
  · obtain ⟨init, rfl⟩ := List.getLast?_eq_some_iff.mp hend
    have hinit : ¬ pattern <:+: init := by
      intro hwithin
      obtain ⟨piece, hpiece, hoccurs⟩ := (infix_iff_exists_piece hpattern).mp
        (hwithin.trans (List.prefix_append init ['\n']).isInfix)
      exact hfront piece hpiece hoccurs
    rw [List.append_assoc, List.singleton_append, split?_append_newline List.prefix_rfl hpattern hinit,
      split?_of_prefix hrest, Option.map_some]

end Lines

end SsaLens.Text
