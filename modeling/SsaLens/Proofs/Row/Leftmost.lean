import SsaLens.Proofs.Row.Number

/-! # The leftmost number in parentheses

The source line of a row is read at the first position where a number in parentheses begins, and nowhere
else: if that number is no line number, the row has no source line, whatever comes later. Blanks around the
row do not matter.
-/

namespace SsaLens.Row

open Text

variable {text digits : List Char}

/-- The text begins with digits in parentheses; blanks may surround them. -/
def Begins (text digits : List Char) : Prop :=
  ∃ inner rest, text = '(' :: (inner ++ ')' :: rest) ∧ Padded inner digits

/-- The position is the first one where digits in parentheses begin. -/
structure Leftmost (text : List Char) (position : Nat) (digits : List Char) : Prop where
  here : Begins (text.drop position) digits
  first : ∀ earlier < position, ∀ other, ¬ Begins (text.drop earlier) other

/-- A text begins with no number exactly if there is no group at its head. -/
theorem parenthesised?_eq_none_iff : parenthesised? text = none ↔ ∀ digits, ¬ Begins text digits := by
  rw [Option.eq_none_iff_forall_ne_some]
  exact forall_congr' fun digits => not_congr parenthesised?_eq_some_iff

theorem Leftmost.of_begins (h : Begins text digits) : Leftmost text 0 digits :=
  ⟨h, fun earlier hearlier => absurd hearlier (Nat.not_lt_zero earlier)⟩

/-- Where nothing begins, the search goes on behind the character. -/
theorem exists_leftmost_cons_iff {c : Char} {rest : List Char}
    (h : ∀ other, ¬ Begins (c :: rest) other) :
    (∃ position, Leftmost (c :: rest) position digits) ↔ ∃ position, Leftmost rest position digits := by
  constructor
  · rintro ⟨_ | position, hleftmost⟩
    · exact absurd hleftmost.here (h digits)
    · exact ⟨position, hleftmost.here, fun earlier hearlier =>
        hleftmost.first (earlier + 1) (Nat.succ_lt_succ hearlier)⟩
  · rintro ⟨position, hleftmost⟩
    refine ⟨position + 1, hleftmost.here, fun earlier hearlier => ?_⟩
    cases earlier with
    | zero => exact h
    | succ earlier => exact hleftmost.first earlier (Nat.lt_of_succ_lt_succ hearlier)

/-- The first number of a row is that of its leftmost group. -/
theorem firstNumber?_eq_some_iff :
    firstNumber? text = some digits ↔ ∃ position, Leftmost text position digits := by
  induction text with
  | nil =>
      refine iff_of_false (Option.some_ne_none digits).symm ?_
      rintro ⟨position, ⟨inner, rest, heq, -⟩, -⟩
      simp at heq
  | cons c rest ih =>
      rw [firstNumber?]
      cases hfound : parenthesised? (c :: rest) with
      | none => exact ih.trans (exists_leftmost_cons_iff (parenthesised?_eq_none_iff.mp hfound)).symm
      | some found =>
          have hbegins : Begins (c :: rest) found := parenthesised?_eq_some_iff.mp hfound
          constructor
          · intro heq
            obtain rfl := Option.some.inj heq
            exact ⟨0, .of_begins hbegins⟩
          · rintro ⟨_ | position, hleftmost⟩
            · exact hfound.symm.trans (parenthesised?_eq_some_iff.mpr hleftmost.here)
            · exact absurd hbegins (hleftmost.first 0 (Nat.succ_pos position) found)

/-- A row has no number exactly if no group begins at any of its places. -/
theorem firstNumber?_eq_none_iff :
    firstNumber? text = none ↔ ∀ position digits, ¬ Begins (text.drop position) digits := by
  induction text with
  | nil => simp [firstNumber?, Begins]
  | cons c rest ih =>
      rw [firstNumber?]
      cases hfound : parenthesised? (c :: rest) with
      | none =>
          have hhere := parenthesised?_eq_none_iff.mp hfound
          refine ih.trans ⟨fun hlater position => ?_, fun h position => h (position + 1)⟩
          cases position with
          | zero => exact hhere
          | succ position => exact hlater position
      | some found =>
          exact iff_of_false (Option.some_ne_none found) fun h =>
            h 0 found (parenthesised?_eq_some_iff.mp hfound)

/-! ## Blanks around a row -/

section Blanks

variable {front back : List Char}

/-- Blanks at the end of a row neither make nor break a group. -/
theorem begins_append_iff (hback : ∀ c ∈ back, isBlank c = true) :
    Begins (text ++ back) digits ↔ Begins text digits := by
  constructor
  · rintro ⟨inner, rest, heq, hpadded⟩
    have hclosing : ')' ∉ back := fun hmem => Bool.false_ne_true (hback ')' hmem)
    rw [← List.cons_append] at heq
    rcases List.append_eq_append_iff.mp heq with ⟨gap, -, hgap⟩ | ⟨behind, htext, hbehind⟩
    · exact absurd (hgap ▸ List.mem_append_right gap List.mem_cons_self) hclosing
    · cases behind with
      | nil =>
          obtain rfl : ')' :: rest = back := hbehind
          exact absurd List.mem_cons_self hclosing
      | cons c behind =>
          obtain ⟨rfl, -⟩ := List.cons.inj hbehind
          exact ⟨inner, behind, htext, hpadded⟩
  · rintro ⟨inner, rest, rfl, hpadded⟩
    exact ⟨inner, rest ++ back, by simp, hpadded⟩

theorem parenthesised?_append (hback : ∀ c ∈ back, isBlank c = true) :
    parenthesised? (text ++ back) = parenthesised? text := by
  ext digits
  exact parenthesised?_eq_some_iff.trans <|
    (begins_append_iff hback).trans parenthesised?_eq_some_iff.symm

/-- Blanks in front of a row do not change its first number. -/
theorem firstNumber?_blank_append (hfront : ∀ c ∈ front, isBlank c = true) (text : List Char) :
    firstNumber? (front ++ text) = firstNumber? text := by
  induction front with
  | nil => rfl
  | cons c front ih =>
      obtain ⟨hc, hrest⟩ := List.forall_mem_cons.mp hfront
      have hnone : parenthesised? (c :: (front ++ text)) = none := by
        refine parenthesised?_eq_none_iff.mpr ?_
        rintro digits ⟨inner, rest, heq, -⟩
        obtain ⟨rfl, -⟩ := List.cons.inj heq
        exact Bool.false_ne_true hc
      rw [List.cons_append, firstNumber?, hnone]
      exact ih hrest

/-- Blanks at the end of a row do not change its first number. -/
theorem firstNumber?_append_blank (hback : ∀ c ∈ back, isBlank c = true) (text : List Char) :
    firstNumber? (text ++ back) = firstNumber? text := by
  induction text with
  | nil => rw [List.nil_append, ← List.append_nil back, firstNumber?_blank_append hback]
  | cons c rest ih =>
      rw [List.cons_append, firstNumber?, firstNumber?, ih, ← List.cons_append,
        parenthesised?_append hback]

end Blanks

/-- A row is read as it is without the blanks around it. -/
theorem firstNumber?_trim (text : List Char) : firstNumber? (trim text) = firstNumber? text := by
  obtain ⟨front, back, htext, hfront, hback⟩ := exists_append_trim text
  conv_rhs => rw [htext, firstNumber?_blank_append hfront, firstNumber?_append_blank hback]

/-! ## The source line -/

theorem Leftmost.readLine?_eq {position : Nat} (h : Leftmost text position digits) :
    readLine? digits = lineNumber? digits := by
  obtain ⟨inner, rest, -, hpadded⟩ := h.here
  exact readLine?_eq_lineNumber? hpadded.run.ne_nil

/-- The source line of a row is the number in its leftmost group, if that can be read. -/
theorem sourceLine?_eq_some_iff {text : String} {line : UInt32} :
    sourceLine? text = some line ↔
      ∃ position digits, Leftmost text.toList position digits ∧ lineNumber? digits = some line := by
  constructor
  · intro h
    obtain ⟨digits, hfirst, hread⟩ := Option.bind_eq_some_iff.mp h
    obtain ⟨position, hleftmost⟩ := firstNumber?_eq_some_iff.mp hfirst
    exact ⟨position, digits, hleftmost, hleftmost.readLine?_eq ▸ hread⟩
  · rintro ⟨position, digits, hleftmost, hread⟩
    have hfirst := firstNumber?_eq_some_iff.mpr ⟨position, hleftmost⟩
    exact Option.bind_eq_some_iff.mpr ⟨digits, hfirst, hleftmost.readLine?_eq.trans hread⟩

/-- A row has no source line if it has no group, or if the number of the leftmost one cannot be read. -/
theorem sourceLine?_eq_none_iff {text : String} :
    sourceLine? text = none ↔
      (∀ position digits, ¬ Begins (text.toList.drop position) digits) ∨
        ∃ position digits, Leftmost text.toList position digits ∧ lineNumber? digits = none := by
  rw [← firstNumber?_eq_none_iff]
  constructor
  · intro h
    cases hfirst : firstNumber? text.toList with
    | none => exact Or.inl rfl
    | some digits =>
        obtain ⟨position, hleftmost⟩ := firstNumber?_eq_some_iff.mp hfirst
        have hread : readLine? digits = none := Option.bind_eq_none_iff.mp h digits hfirst
        exact Or.inr ⟨position, digits, hleftmost, hleftmost.readLine?_eq ▸ hread⟩
  · rintro (hnone | ⟨position, digits, hleftmost, hread⟩)
    · rw [sourceLine?, hnone, Option.bind_none]
    · rw [sourceLine?, firstNumber?_eq_some_iff.mpr ⟨position, hleftmost⟩, Option.bind_some,
        hleftmost.readLine?_eq, hread]

/-- A row has a source line exactly if digits in parentheses begin somewhere, and those at the first such
position are ASCII digits of a number that fits in 32 bits. Blanks around the row do not matter. -/
theorem sourceLine?_leftmost (text : String) :
    (∀ line, sourceLine? text = some line ↔
        ∃ position digits, Leftmost text.toList position digits ∧
          (∀ c ∈ digits, c.isDigit = true) ∧ Nat.ofDigitChars 10 digits 0 = line.toNat) ∧
      (sourceLine? text = none ↔
        (∀ position digits, ¬ Begins (text.toList.drop position) digits) ∨
          ∃ position digits, Leftmost text.toList position digits ∧
            (¬ (∀ c ∈ digits, c.isDigit = true) ∨ 4294967295 < Nat.ofDigitChars 10 digits 0)) ∧
      (∀ front back : String, (∀ c ∈ front.toList, isBlank c = true) →
        (∀ c ∈ back.toList, isBlank c = true) →
          sourceLine? (front ++ text ++ back) = sourceLine? text) ∧
      sourceLine? (trimmed text) = sourceLine? text := by
  refine ⟨fun line => ?_, ?_, fun front back hfront hback => ?_, ?_⟩
  · simp only [sourceLine?_eq_some_iff, lineNumber?_eq_some_iff]
  · simp only [sourceLine?_eq_none_iff, lineNumber?_eq_none_iff]
  · rw [sourceLine?, String.toList_append, String.toList_append, firstNumber?_append_blank hback,
      firstNumber?_blank_append hfront, sourceLine?]
  · rw [sourceLine?, trimmed, String.toList_ofList, firstNumber?_trim, sourceLine?]

/-- A row with a signed number, an unclosed one and one with blanks, between blanks. -/
theorem sourceLine?_leftmost_padded :
    (∀ c ∈ "\t ".toList, isBlank c = true) ∧ (∀ c ∈ "\u3000".toList, isBlank c = true) ∧
      sourceLine? ("\t " ++ "v1 (+7) ((8 ( 042\t) (9)" ++ "\u3000") = some 42 ∧
      ∃ position digits, Leftmost "v1 (+7) ((8 ( 042\t) (9)".toList position digits ∧
        (∀ c ∈ digits, c.isDigit = true) ∧ Nat.ofDigitChars 10 digits 0 = 42 := by
  have hfront : ∀ c ∈ "\t ".toList, isBlank c = true := List.all_eq_true.mp (by decide +kernel)
  have hback : ∀ c ∈ "\u3000".toList, isBlank c = true := List.all_eq_true.mp (by decide +kernel)
  have hrow : sourceLine? "v1 (+7) ((8 ( 042\t) (9)" = some 42 := by decide +kernel
  obtain ⟨hread, -, hblanks, -⟩ := sourceLine?_leftmost "v1 (+7) ((8 ( 042\t) (9)"
  exact ⟨hfront, hback, (hblanks _ _ hfront hback).trans hrow, (hread 42).mp hrow⟩

end SsaLens.Row
