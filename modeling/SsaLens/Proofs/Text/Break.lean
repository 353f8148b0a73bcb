import SsaLens.Text.Units

/-! # Line breaks

A document is broken into lines at newlines, at carriage returns, and at both in that order. A line ends
where a break or the end of the text follows, in the column that counts its UTF-16 code units.
-/

namespace SsaLens.Text

/-- A line break that another text follows. A carriage return with a newline behind it is not a break
by itself. -/
inductive Break : List Char → List Char → Prop where
  | newline (rest : List Char) : Break ['\n'] rest
  | both (rest : List Char) : Break ['\r', '\n'] rest
  | lone {rest : List Char} (h : rest.head? ≠ some '\n') : Break ['\r'] rest

/-- The text has no character of a line break. -/
def Plain (text : List Char) : Prop := ∀ c ∈ text, c ≠ '\n' ∧ c ≠ '\r'

/-- The number of line breaks: of newlines, and of carriage returns with no newline behind them. -/
def breaks : List Char → Nat
  | [] => 0
  | c :: rest => breaks rest + if c = '\n' ∨ c = '\r' ∧ rest.head? ≠ some '\n' then 1 else 0

/-- A character in UTF-16: one code unit, or a pair of surrogates. -/
def utf16 (c : Char) : List UInt16 :=
  if c.toNat < 0x10000 then [.ofNat c.toNat]
  else
    [.ofNat (0xd800 + (c.toNat - 0x10000) / 0x400), .ofNat (0xdc00 + (c.toNat - 0x10000) % 0x400)]

/-- A position is the end of a line: so many breaks stand in the text before it, the column counts the
code units since the last of them, and a break or the end of the text follows. -/
structure LineEnd (text : List Char) (line column : Nat) where
  before : List Char
  within : List Char
  after : List Char
  text_eq : text = before ++ (within ++ after)
  breaks_eq : breaks (before ++ within) = line
  begins : before = [] ∨ ∃ front broken, before = front ++ broken ∧ Break broken (within ++ after)
  plain : Plain within
  column_eq : column = (within.flatMap utf16).length
  ends : after = [] ∨ ∃ broken rest, after = broken ++ rest ∧ Break broken rest

theorem Break.of_append {broken front rest : List Char} (h : Break broken (front ++ rest)) :
    Break broken front := by
  cases h with
  | newline => exact .newline front
  | both => exact .both front
  | lone h =>
      apply Break.lone
      cases front with
      | nil => exact (Option.some_ne_none '\n').symm
      | cons c front => exact h

theorem plain_nil : Plain [] := fun _ hc => absurd hc List.not_mem_nil

theorem plain_cons_iff {c : Char} {rest : List Char} :
    Plain (c :: rest) ↔ (c ≠ '\n' ∧ c ≠ '\r') ∧ Plain rest := List.forall_mem_cons

/-- Induction over a text along its line breaks. -/
theorem linewise {motive : List Char → Prop} (last : ∀ text, Plain text → motive text)
    (line : ∀ first broken rest, Plain first → Break broken rest → motive rest →
      motive (first ++ (broken ++ rest)))
    (text : List Char) : motive text := by
  -- a text is taken in with a part of its first line in front, so that this part can grow
  suffices h : ∀ first, Plain first → motive (first ++ text) from h [] plain_nil
  induction text using cutDocument.induct with
  | case1 =>
      intro first hfirst
      rw [List.append_nil]
      exact last first hfirst
  | case2 rest ih =>
      intro first hfirst
      exact line first ['\r', '\n'] rest hfirst (.both rest) (ih [] plain_nil)
  | case3 c rest hnot hbreak ih =>
      intro first hfirst
      have hrest : motive rest := ih [] plain_nil
      rcases hbreak with rfl | rfl
      · exact line first ['\n'] rest hfirst (.newline rest) hrest
      · refine line first ['\r'] rest hfirst (.lone ?_) hrest
        intro hhead
        obtain ⟨tail, rfl⟩ := List.head?_eq_some_iff.mp hhead
        exact hnot tail rfl rfl
  | case4 c rest hnot hplain ih =>
      intro first hfirst
      rw [List.append_cons]
      apply ih
      intro d hd
      rcases List.mem_append.mp hd with hd | hd
      · exact hfirst d hd
      · obtain rfl := List.mem_singleton.mp hd
        exact not_or.mp hplain

/-! ## Lines -/

theorem cutDocument_plain_cons {c : Char} {rest : List Char} (hc : c ≠ '\n' ∧ c ≠ '\r') :
    cutDocument (c :: rest) = (c :: (cutDocument rest).1, (cutDocument rest).2) := by
  rw [cutDocument]
  · exact if_neg (not_or.mpr hc)
  · intro tail hreturn _
    exact absurd hreturn hc.2

theorem cutDocument_break {broken rest : List Char} (h : Break broken rest) :
    cutDocument (broken ++ rest) = ([], documentLines rest) := by
  cases h with
  | newline => rfl
  | both => rfl
  | lone h =>
      rw [List.singleton_append, cutDocument]
      · exact if_pos (Or.inr rfl)
      · rintro tail - rfl
        exact absurd rfl h

theorem documentLines_append {first broken rest : List Char} (hfirst : Plain first)
    (hbreak : Break broken rest) :
    documentLines (first ++ (broken ++ rest)) = first :: documentLines rest := by
  rw [documentLines]
  induction first with
  | nil => rw [List.nil_append, cutDocument_break hbreak]
  | cons c first ih =>
      obtain ⟨hc, hrest⟩ := plain_cons_iff.mp hfirst
      obtain ⟨hline, hlines⟩ := List.cons.inj (ih hrest)
      rw [List.cons_append, cutDocument_plain_cons hc, hline, hlines]

theorem documentLines_of_plain {text : List Char} (h : Plain text) : documentLines text = [text] := by
  rw [documentLines]
  induction text with
  | nil => rfl
  | cons c rest ih =>
      obtain ⟨hc, hrest⟩ := plain_cons_iff.mp h
      obtain ⟨hline, hlines⟩ := List.cons.inj (ih hrest)
      rw [cutDocument_plain_cons hc, hline, hlines]

/-! ## Counting breaks -/

theorem breaks_plain_append {first : List Char} (h : Plain first) (rest : List Char) :
    breaks (first ++ rest) = breaks rest := by
  induction first with
  | nil => rfl
  | cons c first ih =>
      obtain ⟨⟨hnewline, hreturn⟩, hfirst⟩ := plain_cons_iff.mp h
      rw [List.cons_append, breaks, ih hfirst]
      simp [hnewline, hreturn]

theorem breaks_of_plain {text : List Char} (h : Plain text) : breaks text = 0 := by
  rw [← List.append_nil text, breaks_plain_append h]
  rfl

theorem breaks_append {first broken rest : List Char} (hfirst : Plain first)
    (hbreak : Break broken rest) : breaks (first ++ (broken ++ rest)) = breaks rest + 1 := by
  rw [breaks_plain_append hfirst]
  cases hbreak with
  | newline => rfl
  | both => rfl
  | lone h =>
      rw [List.singleton_append, breaks]
      simp [h]

/-- There is one line more than there are breaks. -/
theorem length_documentLines (text : List Char) : (documentLines text).length = breaks text + 1 := by
  induction text using linewise with
  | last text h => rw [documentLines_of_plain h, breaks_of_plain h, List.length_singleton]
  | line first broken rest hfirst hbreak ih =>
      rw [documentLines_append hfirst hbreak, breaks_append hfirst hbreak, List.length_cons, ih]

/-! ## Ends of lines -/

theorem length_utf16 (c : Char) : (utf16 c).length = units c := by
  rw [utf16, units]
  split <;> rfl

/-- The column behind a line is the number of its code units. -/
theorem endColumn_eq_length (line : List Char) : endColumn line = (line.flatMap utf16).length := by
  rw [endColumn, List.length_flatMap, List.sum]
  simp only [length_utf16]

/-- The last column of every line of a document is the end of that line. -/
theorem nonempty_lineEnd {text line : List Char} {index : Nat}
    (h : (documentLines text)[index]? = some line) :
    Nonempty (LineEnd text index (endColumn line)) := by
  induction text using linewise generalizing index with
  | last text hplain =>
      rw [documentLines_of_plain hplain] at h
      obtain ⟨hindex, hline⟩ := List.getElem?_eq_some_iff.mp h
      obtain rfl : index = 0 := Nat.lt_one_iff.mp hindex
      obtain rfl : text = line := hline
      exact ⟨[], text, [], by simp, breaks_of_plain hplain, Or.inl rfl, hplain, endColumn_eq_length text,
        Or.inl rfl⟩
  | line first broken rest hfirst hbreak ih =>
      rw [documentLines_append hfirst hbreak] at h
      cases index with
      | zero =>
          obtain rfl := Option.some.inj h
          exact ⟨[], first, broken ++ rest, rfl, breaks_of_plain hfirst, Or.inl rfl, hfirst,
            endColumn_eq_length first, Or.inr ⟨broken, rest, rfl, hbreak⟩⟩
      | succ index =>
          rw [List.getElem?_cons_succ] at h
          obtain ⟨before, within, after, rfl, hcount, hbegins, hplain, hcolumn, hends⟩ := ih h
          refine ⟨first ++ (broken ++ before), within, after, by simp, ?_, Or.inr ?_, hplain, hcolumn,
            hends⟩
          · rw [← List.append_assoc] at hbreak
            have hwithin : Break broken (before ++ within) := hbreak.of_append
            rw [List.append_assoc, List.append_assoc, breaks_append hfirst hwithin, hcount]
          · rcases hbegins with rfl | ⟨front, last, rfl, hlast⟩
            · exact ⟨first, broken, by simp, hbreak⟩
            · exact ⟨first ++ (broken ++ front), last, by simp, hlast⟩

end SsaLens.Text
