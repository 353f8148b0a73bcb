import SsaLens.Proofs.Text.Span
import SsaLens.Row

/-! # Numbers in parentheses

A row may hold several numbers in parentheses, each of them digits with blanks around. Its source line
is what the first of them reads; the lines it mentions are those of which one of them is the numeral as
it is printed. The two are the same for a row whose source line is printed so, and no other one later.
-/

namespace SsaLens.Row

open Text

/-- Digits with blanks around them. -/
structure Padded (inner digits : List Char) : Prop where
  run : Run isDigit digits
  blanks : ∃ gap back, inner = gap ++ (digits ++ back) ∧ (∀ c ∈ gap, isBlank c = true) ∧
    ∀ c ∈ back, isBlank c = true

namespace Padded

variable {inner digits : List Char}

theorem of_run (h : Run isDigit digits) : Padded digits digits :=
  ⟨h, [], [], by simp, List.forall_mem_nil _, List.forall_mem_nil _⟩

theorem digits_not_blank (h : Padded inner digits) : ∀ c ∈ digits, isBlank c = false :=
  fun c hc => isBlank_eq_false_of_isDigit (h.run.forall_mem c hc)

/-- The digits are what is left of a padded number without its blanks. -/
theorem trim_eq (h : Padded inner digits) : trim inner = digits := by
  obtain ⟨gap, back, rfl, hgap, hback⟩ := h.blanks
  have hfront : Stops isBlank (digits ++ back) := by
    obtain ⟨c, rest, rfl⟩ := List.exists_cons_of_ne_nil h.run.ne_nil
    exact stops_cons (h.digits_not_blank c List.mem_cons_self)
  have hend : Stops isBlank digits.reverse :=
    stops_of_forall_mem fun c hc => h.digits_not_blank c (List.mem_reverse.mp hc)
  rw [trim, dropWhile_append_of_stops hgap hfront, trimEnd_append hback hend]

theorem not_closing (h : Padded inner digits) : ∀ c ∈ inner, decide (c ≠ ')') = true := by
  obtain ⟨gap, back, rfl, hgap, hback⟩ := h.blanks
  have hblank : ∀ c, isBlank c = true → decide (c ≠ ')') = true := by
    intro c hc
    exact decide_eq_true fun heq => by simp [heq, show isBlank ')' = false from rfl] at hc
  intro c hc
  rcases List.mem_append.mp hc with hc | hc
  · exact hblank c (hgap c hc)
  rcases List.mem_append.mp hc with hc | hc
  · have hdigit := h.run.forall_mem c hc
    exact decide_eq_true fun heq => by simp [heq, show isDigit ')' = false from rfl] at hdigit
  · exact hblank c (hback c hc)

end Padded

theorem closing_stops (rest : List Char) : Stops (fun c => decide (c ≠ ')')) (')' :: rest) :=
  stops_cons (by simp)

/-- A text begins with a number in parentheses in one way only. -/
theorem parenthesised?_eq_some_iff {text digits : List Char} :
    parenthesised? text = some digits ↔
      ∃ inner rest, text = '(' :: (inner ++ ')' :: rest) ∧ Padded inner digits := by
  constructor
  · intro h
    unfold parenthesised? at h
    split at h
    next rest =>
      dsimp only at h
      split at h
      next hform =>
        obtain rfl := Option.some.inj h
        obtain ⟨hne, hclosing⟩ := hform
        let body := rest.dropWhile isBlank
        let behind := body.dropWhile isDigit
        obtain ⟨tail, htail⟩ := List.head?_eq_some_iff.mp hclosing
        have hrest : rest = rest.takeWhile isBlank ++ (body.takeWhile isDigit ++
            (behind.takeWhile isBlank ++ ')' :: tail)) := by
          rw [← htail, List.takeWhile_append_dropWhile, List.takeWhile_append_dropWhile,
            List.takeWhile_append_dropWhile]
        refine ⟨rest.takeWhile isBlank ++ (body.takeWhile isDigit ++ behind.takeWhile isBlank), tail,
          ?_, run_takeWhile hne, _, _, rfl, fun _ hc => List.mem_takeWhile_imp hc,
          fun _ hc => List.mem_takeWhile_imp hc⟩
        rw [List.append_assoc, List.append_assoc, ← hrest]
      next => exact absurd h (Option.some_ne_none digits).symm
    next => exact absurd h (Option.some_ne_none digits).symm
  · rintro ⟨inner, rest, rfl, hpadded⟩
    obtain ⟨gap, back, rfl, hgap, hback⟩ := hpadded.blanks
    have hdigits : Stops isBlank (digits ++ (back ++ ')' :: rest)) := by
      obtain ⟨c, more, hcons⟩ := List.exists_cons_of_ne_nil hpadded.run.ne_nil
      rw [hcons, List.cons_append]
      exact stops_cons (hpadded.digits_not_blank c (hcons ▸ List.mem_cons_self))
    have hbehind : Stops isDigit (back ++ ')' :: rest) := by
      cases back with
      | nil => exact stops_cons rfl
      | cons c more => exact stops_cons (isDigit_eq_false_of_isBlank (hback c List.mem_cons_self))
    have hclosing : Stops isBlank (')' :: rest) := stops_cons rfl
    rw [List.append_assoc, List.append_assoc, parenthesised?]
    simp only [dropWhile_append_of_stops hgap hdigits,
      takeWhile_append_of_stops hpadded.run.forall_mem hbehind,
      dropWhile_append_of_stops hpadded.run.forall_mem hbehind,
      dropWhile_append_of_stops hback hclosing, List.head?_cons]
    exact if_pos ⟨hpadded.run.ne_nil, trivial⟩

/-- The numbers in parentheses from left to right, with the blanks around their digits. -/
def numbers : List Char → List (List Char)
  | [] => []
  | c :: rest =>
      match parenthesised? (c :: rest) with
      | some _ => rest.takeWhile (· ≠ ')') :: numbers rest
      | none => numbers rest

/-- A group at the head of a text is the first of its numbers. -/
theorem numbers_of_padded {inner digits : List Char} (h : Padded inner digits) (rest : List Char) :
    numbers ('(' :: (inner ++ ')' :: rest)) = inner :: numbers (inner ++ ')' :: rest) := by
  have hfound : parenthesised? ('(' :: (inner ++ ')' :: rest)) = some digits :=
    parenthesised?_eq_some_iff.mpr ⟨inner, rest, rfl, h⟩
  rw [numbers, hfound]
  exact congrArg (· :: _) (takeWhile_append_of_stops h.not_closing (closing_stops rest))

theorem numbers_of_none {c : Char} {rest : List Char} (h : parenthesised? (c :: rest) = none) :
    numbers (c :: rest) = numbers rest := by
  rw [numbers, h]

/-- The numbers of a text are all the groups in it, and each is padded by blanks at most. -/
theorem mem_numbers_iff {text inner : List Char} :
    inner ∈ numbers text ↔ ∃ before after digits,
      text = before ++ '(' :: (inner ++ ')' :: after) ∧ Padded inner digits := by
  induction text with
  | nil => simp [numbers]
  | cons c rest ih =>
      -- what begins later begins in the rest
      have hlater : (∃ before after digits,
          c :: rest = before ++ '(' :: (inner ++ ')' :: after) ∧ Padded inner digits) ↔
          (∃ after digits, c :: rest = '(' :: (inner ++ ')' :: after) ∧ Padded inner digits) ∨
            inner ∈ numbers rest := by
        rw [ih]
        constructor
        · rintro ⟨_ | ⟨d, before⟩, after, digits, heq, hpadded⟩
          · exact Or.inl ⟨after, digits, heq, hpadded⟩
          · exact Or.inr ⟨before, after, digits, (List.cons.inj heq).2, hpadded⟩
        · rintro (⟨after, digits, heq, hpadded⟩ | ⟨before, after, digits, rfl, hpadded⟩)
          · exact ⟨[], after, digits, heq, hpadded⟩
          · exact ⟨c :: before, after, digits, rfl, hpadded⟩
      rw [hlater]
      cases hfound : parenthesised? (c :: rest) with
      | none =>
          rw [numbers_of_none hfound]
          refine (or_iff_right ?_).symm
          rintro ⟨after, digits, heq, hpadded⟩
          have hsome := parenthesised?_eq_some_iff.mpr ⟨inner, after, heq, hpadded⟩
          exact absurd (hfound.symm.trans hsome) (Option.some_ne_none digits).symm
      | some digits =>
          obtain ⟨first, tail, heq, hfirst⟩ := parenthesised?_eq_some_iff.mp hfound
          obtain ⟨rfl, rfl⟩ := List.cons.inj heq
          rw [numbers_of_padded hfirst, List.mem_cons]
          refine or_congr_left ⟨?_, ?_⟩
          · rintro rfl
            exact ⟨tail, digits, rfl, hfirst⟩
          · rintro ⟨after, other, hsame, hpadded⟩
            exact (append_inj_of_stops hpadded.not_closing hfirst.not_closing (closing_stops after)
              (closing_stops tail) (List.cons.inj hsame).2.symm).1

/-- The first number of a text is the head of all of them, without its blanks. -/
theorem firstNumber?_eq_head? (text : List Char) :
    firstNumber? text = (numbers text).head?.map trim := by
  induction text with
  | nil => rfl
  | cons c rest ih =>
      cases hfound : parenthesised? (c :: rest) with
      | none =>
          rw [firstNumber?, hfound, numbers_of_none hfound]
          exact ih
      | some digits =>
          obtain ⟨inner, tail, heq, hpadded⟩ := parenthesised?_eq_some_iff.mp hfound
          rw [firstNumber?, hfound, heq, numbers_of_padded hpadded, List.head?_cons, Option.map_some,
            hpadded.trim_eq]
          rfl

/-- The source line of a row is what its first number in parentheses reads. -/
theorem sourceLine?_eq_head? (text : String) :
    sourceLine? text = (numbers text.toList).head?.bind fun inner => readLine? (trim inner) := by
  rw [sourceLine?, firstNumber?_eq_head?, Option.bind_map]
  rfl

/-- A row mentions the lines that are printed as one of its numbers in parentheses. -/
theorem mentions_iff (text : String) (line : UInt32) :
    mentions text line = true ↔ numeral line.toNat ∈ numbers text.toList := by
  rw [mentions, occurs_iff, mem_numbers_iff]
  constructor
  · rintro ⟨before, after, heq⟩
    exact ⟨before, after, _, by simp [← heq], Padded.of_run (run_numeral line.toNat)⟩
  · rintro ⟨before, after, -, heq, -⟩
    exact ⟨before, after, by simp [heq]⟩

/-- A row mentions its source line and no other one exactly if the line is printed in parentheses
somewhere, and no other line is printed so behind the first number. -/
theorem mentions_iff_sourceLine?_iff (text : String) :
    (∀ line, mentions text line = true ↔ sourceLine? text = some line) ↔
      (∀ line, sourceLine? text = some line → numeral line.toNat ∈ numbers text.toList) ∧
        ∀ line, numeral line.toNat ∈ (numbers text.toList).tail → sourceLine? text = some line := by
  simp only [mentions_iff]
  constructor
  · intro h
    exact ⟨fun line => (h line).mpr, fun line hline => (h line).mp (List.mem_of_mem_tail hline)⟩
  · rintro ⟨hown, hothers⟩ line
    refine ⟨fun hline => ?_, hown line⟩
    cases hnumbers : numbers text.toList with
    | nil => exact absurd hline (hnumbers ▸ List.not_mem_nil)
    | cons first later =>
        rw [hnumbers] at hline hothers
        rcases List.mem_cons.mp hline with rfl | hline
        · have hpadded := Padded.of_run (run_numeral line.toNat)
          rw [sourceLine?_eq_head?, hnumbers, List.head?_cons, Option.bind_some, hpadded.trim_eq,
            readLine?_numeral]
        · exact hothers line hline

end SsaLens.Row
