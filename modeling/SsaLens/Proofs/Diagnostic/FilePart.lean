import SsaLens.Proofs.Diagnostic.Classification

/-! # The file that a diagnostic names

The file part of a diagnostic is read and then left aside. Here it is kept: a line that is classified
names the file of the reading that decides it.
-/

namespace SsaLens.Diagnostic

open Text

/-- The shortest file part that a form can follow. -/
def fileBefore? (form : List Char → Option Verdict) : List Char → Option (List Char)
  | [] => none
  | c :: rest =>
      if c = '\n' then none
      else if (placed? form rest).isSome then some [c]
      else (fileBefore? form rest).map (c :: ·)

/-- The file that a line names, if it is classified. -/
def file? (line : String) : Option String := do
  let file ← fileBefore? inlinable? line.toList <|> fileBefore? refused? line.toList <|>
    fileBefore? inlinedCall? line.toList
  if (classify line).isSome then some (String.ofList file) else none

/-- The file part of the reading that decides a text. -/
inductive Names (text : List Char) : List Char → Prop where
  | inlinable (reading : Reading Inlinable text) (hshortest : reading.Shortest) :
      Names text reading.file
  | refused (hinlinable : IsEmpty (Reading Inlinable text)) (reading : Reading Refused text)
      (hshortest : reading.Shortest) : Names text reading.file
  | inlinedCall (hinlinable : IsEmpty (Reading Inlinable text))
      (hrefused : IsEmpty (Reading Refused text)) (reading : Reading InlinedCall text)
      (hshortest : reading.Shortest) : Names text reading.file

/-- There is a file part in front of a form exactly where the form is found. -/
theorem isSome_fileBefore? (form : List Char → Option Verdict) (text : List Char) :
    (fileBefore? form text).isSome = (located? form text).isSome := by
  induction text with
  | nil => rfl
  | cons c rest ih =>
      rw [located?_cons, fileBefore?]
      split
      · rfl
      · cases hplaced : placed? form rest with
        | some found => rfl
        | none => simpa using ih

/-- The file part ends at the first position where the form is placed. -/
theorem fileBefore?_append {form : List Char → Option Verdict} {file rest : List Char}
    (hne : file ≠ []) (hline : '\n' ∉ file) (hhere : (placed? form rest).isSome = true)
    (hfirst : ∀ front back, file = front ++ back → front ≠ [] → back ≠ [] →
      placed? form (back ++ rest) = none) :
    fileBefore? form (file ++ rest) = some file := by
  induction file with
  | nil => exact absurd rfl hne
  | cons c tail ih =>
      obtain ⟨hc, htail⟩ := not_or.mp (fun hmem => hline (List.mem_cons.mpr hmem))
      rw [List.cons_append, fileBefore?, if_neg (Ne.symm hc)]
      by_cases hnil : tail = []
      · rw [hnil, List.nil_append, if_pos hhere]
      · have hlater := ih hnil htail fun front back heq _ hback =>
          hfirst (c :: front) back (by rw [heq]; rfl) (List.cons_ne_nil c front) hback
        rw [hfirst [c] tail rfl (List.cons_ne_nil c []) hnil, hlater]
        rfl

section Search

variable {form : List Char → Option Verdict} {Form : List Char → Type} {text : List Char}
variable (hsound : ∀ {message verdict}, form message = some verdict → Nonempty (Form message))

include hsound

/-- A form without a reading has no file part in front. -/
theorem fileBefore?_eq_none (hnone : IsEmpty (Reading Form text)) : fileBefore? form text = none := by
  rw [← Option.not_isSome_iff_eq_none, isSome_fileBefore?, located?_eq_none hsound hnone]
  exact Bool.false_ne_true

/-- The file part in front of a form is that of its shortest reading. -/
theorem fileBefore?_eq_some {reading : Reading Form text} (hshortest : reading.Shortest)
    (hform : (form reading.message).isSome = true) :
    fileBefore? form text = some reading.file := by
  obtain ⟨verdict, hverdict⟩ := Option.isSome_iff_exists.mp hform
  have hhere := placed?_eq_some_iff.mpr
    ⟨reading.column, reading.message, rfl, reading.line_run, reading.column_run, hverdict⟩
  conv_lhs => rw [reading.text_eq]
  exact fileBefore?_append reading.file_ne_nil reading.file_one_line
    (Option.isSome_iff_exists.mpr ⟨_, hhere⟩) fun _ _ hfile hfront hback =>
      placed?_eq_none_of_shortest hsound hshortest hfile hfront hback

end Search

theorem isSome_refused? {message : List Char} (refused : Refused message) :
    (refused? message).isSome = true := by
  obtain ⟨greedy, hgreedy⟩ := Refused.exists_greedy ⟨refused⟩
  rw [refused?_eq_some greedy hgreedy]
  rfl

/-- The file part that decides is the one that is found in front. -/
theorem fileBefore?_of_names {text file : List Char} (h : Names text file) :
    (fileBefore? inlinable? text <|> fileBefore? refused? text <|>
      fileBefore? inlinedCall? text) = some file := by
  cases h with
  | inlinable reading hshortest =>
      rw [fileBefore?_eq_some nonempty_inlinable hshortest
        (Option.isSome_iff_exists.mpr ⟨_, inlinable?_eq_some reading.form⟩)]
      rfl
  | refused hinlinable reading hshortest =>
      rw [fileBefore?_eq_none nonempty_inlinable hinlinable,
        fileBefore?_eq_some nonempty_refused hshortest (isSome_refused? reading.form)]
      rfl
  | inlinedCall hinlinable hrefused reading hshortest =>
      rw [fileBefore?_eq_none nonempty_inlinable hinlinable,
        fileBefore?_eq_none nonempty_refused hrefused,
        fileBefore?_eq_some nonempty_inlinedCall hshortest
          (Option.isSome_iff_exists.mpr ⟨_, inlinedCall?_eq_some reading.form⟩)]
      rfl

/-- A classified text names a file. -/
theorem exists_names_of_classified {text : List Char} {found : UInt32 × Verdict}
    (h : Classified text (some found)) : ∃ file, Names text file := by
  generalize hanswer : some found = answer at h
  cases h with
  | inlinable reading hshortest => exact ⟨_, .inlinable reading hshortest⟩
  | refused hinlinable reading hshortest => exact ⟨_, .refused hinlinable reading hshortest⟩
  | inlinedCall hinlinable hrefused reading hshortest =>
      exact ⟨_, .inlinedCall hinlinable hrefused reading hshortest⟩
  | unread => exact absurd hanswer (Option.some_ne_none found)

/-- A line names a file exactly if it is classified and the grammar reads that file in front. -/
theorem file?_eq_some_iff {line file : String} :
    file? line = some file ↔ (classify line).isSome = true ∧ Names line.toList file.toList := by
  simp only [file?, Option.bind_eq_bind, Option.bind_eq_some_iff, Option.ite_none_right_eq_some,
    Option.some.injEq]
  constructor
  · rintro ⟨found, hfound, hclassified, rfl⟩
    obtain ⟨answer, hanswer⟩ := Option.isSome_iff_exists.mp hclassified
    obtain ⟨file, hnames⟩ := exists_names_of_classified (hanswer ▸ classified_classify line)
    obtain rfl : found = file := Option.some.inj (hfound.symm.trans (fileBefore?_of_names hnames))
    exact ⟨hclassified, by rwa [String.toList_ofList]⟩
  · rintro ⟨hclassified, hnames⟩
    exact ⟨file.toList, fileBefore?_of_names hnames, hclassified, String.ofList_toList⟩

end SsaLens.Diagnostic
