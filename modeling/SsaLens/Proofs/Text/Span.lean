import Mathlib.Data.List.DropRight
import SsaLens.Text.Blank
import SsaLens.Text.Decimal

/-! # Runs of characters

A run is a non-empty text of characters of one class. A text that begins with a run and goes on
with another character is cut there and nowhere else.
-/

namespace SsaLens.Text

/-- A non-empty text of characters of one class. -/
structure Run (p : Char → Bool) (text : List Char) : Prop where
  ne_nil : text ≠ []
  forall_mem : ∀ c ∈ text, p c = true

/-- The text is empty or begins with a character outside the class. -/
def Stops (p : Char → Bool) (text : List Char) : Prop := ∀ c ∈ text.head?, p c = false

instance (p : Char → Bool) : (text : List Char) → Decidable (Stops p text)
  | [] => isTrue fun _ hmem => absurd hmem (Option.not_mem_none _)
  | c :: rest => decidable_of_iff (p c = false) (by simp [Stops])

variable {p : Char → Bool} {front rest : List Char}

theorem stops_cons {c : Char} (h : p c = false) : Stops p (c :: rest) := by
  intro other hother
  obtain rfl := Option.some.inj hother
  exact h

theorem stops_of_forall_mem {text : List Char} (h : ∀ c ∈ text, p c = false) : Stops p text :=
  fun c hc => h c (List.mem_of_mem_head? hc)

theorem stops_reverse {text : List Char} (h : ∀ c ∈ text.getLast?, p c = false) :
    Stops p text.reverse := by
  intro c hc
  rw [List.head?_reverse] at hc
  exact h c hc

theorem takeWhile_eq_nil_of_stops (h : Stops p rest) : rest.takeWhile p = [] := by
  cases rest with
  | nil => rfl
  | cons c tail => simp [h c rfl]

theorem takeWhile_append_of_stops (hall : ∀ c ∈ front, p c = true) (hstop : Stops p rest) :
    (front ++ rest).takeWhile p = front := by
  rw [List.takeWhile_append_of_pos hall, takeWhile_eq_nil_of_stops hstop, List.append_nil]

theorem dropWhile_append_of_stops (hall : ∀ c ∈ front, p c = true) (hstop : Stops p rest) :
    (front ++ rest).dropWhile p = rest := by
  rw [List.dropWhile_append_of_pos hall]
  cases rest with
  | nil => rfl
  | cons c tail => simp [hstop c rfl]

theorem dropWhile_of_stops (h : Stops p rest) : rest.dropWhile p = rest :=
  dropWhile_append_of_stops (List.forall_mem_nil _) h

theorem stops_dropWhile (p : Char → Bool) (text : List Char) : Stops p (text.dropWhile p) := by
  intro c hc
  have := List.head?_dropWhile_not p text
  rw [Option.mem_def.mp hc] at this
  simpa using this

theorem run_takeWhile {text : List Char} (h : text.takeWhile p ≠ []) : Run p (text.takeWhile p) :=
  ⟨h, fun _ hc => List.mem_takeWhile_imp hc⟩

/-- A text is cut in one way only into characters of a class and a rest that stops there. -/
theorem append_inj_of_stops {front' rest' : List Char} (hall : ∀ c ∈ front, p c = true)
    (hall' : ∀ c ∈ front', p c = true) (hstop : Stops p rest) (hstop' : Stops p rest')
    (heq : front ++ rest = front' ++ rest') : front = front' ∧ rest = rest' := by
  have htake := congrArg (List.takeWhile p) heq
  have hdrop := congrArg (List.dropWhile p) heq
  rw [takeWhile_append_of_stops hall hstop, takeWhile_append_of_stops hall' hstop'] at htake
  rw [dropWhile_append_of_stops hall hstop, dropWhile_append_of_stops hall' hstop'] at hdrop
  exact ⟨htake, hdrop⟩

/-- A text with a character is cut at its first one or at a later one. -/
theorem append_cons_cases {c : Char} {front rest front' rest' : List Char} (hc : c ∉ front)
    (h : front ++ c :: rest = front' ++ c :: rest') :
    (front = front' ∧ rest = rest') ∨
      ∃ between, front' = front ++ c :: between ∧ rest = between ++ c :: rest' := by
  rcases List.append_eq_append_iff.mp h with ⟨back, hfront, hback⟩ | ⟨back, hfront, hback⟩
  · cases back with
    | nil =>
        rw [List.append_nil] at hfront
        exact Or.inl ⟨hfront.symm, (List.cons.inj hback).2⟩
    | cons d between =>
        obtain ⟨rfl, hrest⟩ := List.cons.inj hback
        exact Or.inr ⟨between, hfront, hrest⟩
  · cases back with
    | nil =>
        rw [List.append_nil] at hfront
        exact Or.inl ⟨hfront, (List.cons.inj hback).2.symm⟩
    | cons d between =>
        obtain ⟨rfl, -⟩ := List.cons.inj hback
        exact absurd (hfront ▸ List.mem_append_right front' List.mem_cons_self) hc

/-- What begins with a character that the front has not is cut off behind it. -/
theorem suffix_of_suffix_append {c : Char} {front back rest : List Char} (hc : c ∉ front)
    (h : c :: rest <:+ front ++ back) : c :: rest <:+ back := by
  induction front with
  | nil => exact h
  | cons d front ih =>
      obtain ⟨hd, hfront⟩ := not_or.mp (mt List.mem_cons.mpr hc)
      rcases List.suffix_cons_iff.mp h with heq | hlater
      · exact absurd (List.cons.inj heq).1 hd
      · exact ih hfront hlater

theorem trimEnd_eq_rdropWhile (text : List Char) : trimEnd text = text.rdropWhile isBlank := rfl

theorem trimEnd_of_stops {text : List Char} (h : Stops isBlank text.reverse) :
    trimEnd text = text := by
  rw [trimEnd, dropWhile_of_stops h, List.reverse_reverse]

theorem trim_of_stops {text : List Char} (h : Stops isBlank text) :
    trim text = text.rdropWhile isBlank := by
  rw [trim, dropWhile_of_stops h, trimEnd_eq_rdropWhile]

theorem trimEnd_append {text back : List Char} (hback : ∀ c ∈ back, isBlank c = true)
    (hstop : Stops isBlank text.reverse) : trimEnd (text ++ back) = text := by
  have hblanks : ∀ c ∈ back.reverse, isBlank c = true := fun c hc =>
    hback c (List.mem_reverse.mp hc)
  rw [trimEnd, List.reverse_append, dropWhile_append_of_stops hblanks hstop, List.reverse_reverse]

theorem trim_append {gap text : List Char} (hgap : ∀ c ∈ gap, isBlank c = true)
    (hfront : Stops isBlank text) (hback : Stops isBlank text.reverse) : trim (gap ++ text) = text := by
  rw [trim, dropWhile_append_of_stops hgap hfront, trimEnd_of_stops hback]

theorem stops_trim (text : List Char) : Stops isBlank (trim text) := by
  intro c hc
  -- a trimmed text that is not empty begins as the text does after its first blanks
  have hprefix : trim text <+: text.dropWhile isBlank := List.rdropWhile_prefix isBlank _
  obtain ⟨rest, hrest⟩ := List.head?_eq_some_iff.mp hc
  obtain ⟨back, hback⟩ := hprefix
  refine stops_dropWhile isBlank text c ?_
  rw [← hback, hrest, List.cons_append, List.head?_cons]
  rfl

theorem stops_reverse_trim (text : List Char) : Stops isBlank (trim text).reverse := by
  rw [trim, trimEnd, List.reverse_reverse]
  exact stops_dropWhile isBlank _

/-- What is removed by trimming are blanks on both sides. -/
theorem exists_append_trim (text : List Char) :
    ∃ front back, text = front ++ (trim text ++ back) ∧ (∀ c ∈ front, isBlank c = true) ∧
      ∀ c ∈ back, isBlank c = true := by
  let body := text.dropWhile isBlank
  have hbody : body = trim text ++ (body.reverse.takeWhile isBlank).reverse := by
    rw [trim, trimEnd, ← List.reverse_append, List.takeWhile_append_dropWhile, List.reverse_reverse]
  refine ⟨text.takeWhile isBlank, (body.reverse.takeWhile isBlank).reverse, ?_,
    fun _ hc => List.mem_takeWhile_imp hc, fun _ hc => List.mem_takeWhile_imp (List.mem_reverse.mp hc)⟩
  rw [← hbody, List.takeWhile_append_dropWhile]

/-- A text that was trimmed has no blanks left to trim. -/
theorem trim_trim (text : List Char) : trim (trim text) = trim text :=
  trim_append (List.forall_mem_nil _) (stops_trim text) (stops_reverse_trim text)

theorem trimmed_trimmed (text : String) : trimmed (trimmed text) = trimmed text := by
  rw [trimmed, trimmed, String.toList_ofList, trim_trim]

/-! ## Blanks and digits -/

theorem inRanges_eq_false_of_disjoint {first second : List (Nat × Nat)} {c : Char}
    (h : ∀ one ∈ first, ∀ other ∈ second, one.2 < other.1 ∨ other.2 < one.1)
    (hc : inRanges first c = true) : inRanges second c = false := by
  obtain ⟨one, hone, hwithin⟩ := List.any_eq_true.mp hc
  refine List.any_eq_false.mpr fun other hother hwithin' => ?_
  simp only [Bool.and_eq_true, decide_eq_true_eq] at hwithin hwithin'
  rcases h one hone other hother with hlt | hlt <;> omega

theorem isBlank_eq_false_of_isDigit {c : Char} (h : isDigit c = true) : isBlank c = false :=
  inRanges_eq_false_of_disjoint (by decide) h

theorem isDigit_eq_false_of_isBlank {c : Char} (h : isBlank c = true) : isDigit c = false :=
  Bool.eq_false_iff.mpr fun hdigit => by simp [isBlank_eq_false_of_isDigit hdigit] at h

theorem run_numeral (value : Nat) : Run isDigit (numeral value) := by
  refine ⟨numeral_ne_nil value, fun c hc => isDigit_of_ascii ?_⟩
  exact Nat.isDigit_of_mem_toDigits (by decide : 0 < 10) (by decide : 10 ≤ 10) hc

/-! ## Runs of digits as line numbers -/

/-- The line number that digits write: all of them are ASCII digits, and the value fits in 32 bits. -/
def lineNumber? (digits : List Char) : Option UInt32 :=
  if digits.all Char.isDigit ∧ Nat.ofDigitChars 10 digits 0 ≤ 4294967295 then
    some (UInt32.ofNat (Nat.ofDigitChars 10 digits 0))
  else none

theorem lineNumber?_eq_some_iff {digits : List Char} {line : UInt32} :
    lineNumber? digits = some line ↔
      (∀ c ∈ digits, c.isDigit = true) ∧ Nat.ofDigitChars 10 digits 0 = line.toNat := by
  rw [lineNumber?, Option.ite_none_right_eq_some, List.all_eq_true]
  constructor
  · rintro ⟨⟨hall, hle⟩, heq⟩
    refine ⟨hall, ?_⟩
    rw [← Option.some.inj heq, UInt32.toNat_ofNat_of_lt' (Nat.lt_succ_of_le hle)]
  · rintro ⟨hall, hvalue⟩
    have hlt := line.toNat_lt
    exact ⟨⟨hall, by omega⟩, by rw [hvalue, UInt32.ofNat_toNat]⟩

/-- Digits are no line number if one of them is not an ASCII digit, or if they write too great a value. -/
theorem lineNumber?_eq_none_iff {digits : List Char} :
    lineNumber? digits = none ↔
      ¬ (∀ c ∈ digits, c.isDigit = true) ∨ 4294967295 < Nat.ofDigitChars 10 digits 0 := by
  rw [lineNumber?, ite_eq_right_iff, imp_iff_not (Option.some_ne_none _), List.all_eq_true, not_and_or,
    Nat.not_le]

theorem digitValue?_eq (c : Char) :
    digitValue? c = if c.isDigit then some (c.toNat - 0x30) else none := by
  have hrange : c.isDigit = true ↔ 0x30 ≤ c.toNat ∧ c.toNat ≤ 0x39 := by
    simp only [Char.isDigit, Bool.and_eq_true, decide_eq_true_eq, ge_iff_le]
    exact and_congr UInt32.le_iff_toNat_le UInt32.le_iff_toNat_le
  simp only [digitValue?, hrange]

theorem readDigits_eq (value : Nat) (digits : List Char) :
    readDigits value digits =
      if digits.all Char.isDigit then some (Nat.ofDigitChars 10 digits value) else none := by
  induction digits generalizing value with
  | nil => simp [readDigits]
  | cons c rest ih =>
      rw [readDigits, digitValue?_eq]
      by_cases hdigit : c.isDigit
      · simp only [hdigit, if_true, Option.bind_some, ih, List.all_cons, Bool.true_and,
          Nat.ofDigitChars_cons]
        rw [Nat.mul_comm value 10]
        rfl
      · simp [hdigit]

/-- Reading digits one by one, with its check for an overflow, gives the number that they write. -/
theorem readLine?_eq_lineNumber? {digits : List Char} (h : digits ≠ []) :
    readLine? digits = lineNumber? digits := by
  rw [readLine?, readNat?, if_neg h, readDigits_eq, lineNumber?]
  by_cases hall : digits.all Char.isDigit
  · simp only [hall, if_true, Option.bind_some, true_and]
    exact if_congr (by omega) rfl rfl
  · simp [hall]

end SsaLens.Text
