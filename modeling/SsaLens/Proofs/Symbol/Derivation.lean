import SsaLens.Dump
import SsaLens.Proofs.Symbol
import SsaLens.Proofs.Text.Occurrence
import SsaLens.Proofs.Text.Span

/-! # Bare names

An identifier is its own bare name if it has no point or the form of a method. Any other one loses what is
in front of its last point. A bare name is its own bare name, and a dump is found by it as well as by the
identifier.
-/

namespace SsaLens.Symbol

open Text

/-- The form of a method: a line that begins with a parenthesis, with a `).` somewhere behind its first
character and something after that. -/
structure Method (text : List Char) : Prop where
  one_line : '\n' ∉ text
  opened : text.head? = some '('
  selected : ∃ receiver name, text = receiver ++ ([')', '.'] ++ name) ∧ receiver ≠ [] ∧ name ≠ []

theorem isMethod_cons_iff (c : Char) (rest : List Char) :
    isMethod (c :: rest) = true ↔ c = '(' ∧ '\n' ∉ rest ∧
      ∃ front found, split? [')', '.'] rest = some (front, found) ∧ 2 < found.length := by
  by_cases hc : c = '('
  · subst hc
    rcases hsplit : split? [')', '.'] rest with _ | ⟨front, found⟩ <;> simp [isMethod, hsplit]
  · simp [isMethod, hc]

/-- Whether an identifier is a method can be seen at its first `).`, because most is behind that one. -/
theorem isMethod_iff (text : List Char) : isMethod text = true ↔ Method text := by
  cases text with
  | nil => exact iff_of_false (by simp [isMethod]) fun h => by simpa using h.opened
  | cons c rest =>
      rw [isMethod_cons_iff]
      constructor
      · rintro ⟨rfl, hline, front, found, hsplit, hlength⟩
        obtain ⟨rfl, name, rfl⟩ := split?_eq_append hsplit
        refine ⟨by simpa using hline, rfl, '(' :: front, name, rfl, List.cons_ne_nil _ _, ?_⟩
        rintro rfl
        simp at hlength
      · rintro ⟨hline, hopened, receiver, name, htext, hreceiver, hname⟩
        obtain rfl : c = '(' := by simpa using hopened
        obtain ⟨d, before, rfl⟩ := List.exists_cons_of_ne_nil hreceiver
        have hrest : rest = before ++ ([')', '.'] ++ name) := (List.cons.inj htext).2
        have hoccurs : occurs [')', '.'] rest = true :=
          occurs_iff.mpr ⟨before, name, by rw [hrest, List.append_assoc]⟩
        obtain ⟨⟨front, found⟩, hsplit⟩ := Option.isSome_iff_exists.mp hoccurs
        refine ⟨rfl, fun hmem => hline (List.mem_cons_of_mem _ hmem), front, found, hsplit, ?_⟩
        have hfront : front.length ≤ before.length := length_le_of_split? (hrest ▸ hsplit)
        have hlength := congrArg List.length (split?_eq_append hsplit).1
        rw [hrest] at hlength
        simp only [List.length_append, List.length_cons, List.length_nil] at hlength
        have hpos := List.length_pos_iff.mpr hname
        omega

/-! ## What is behind the last point -/

theorem ne_point_of_mem_reverse {text : List Char} (h : '.' ∉ text) :
    ∀ c ∈ text.reverse, decide (c ≠ '.') = true := fun _ hc =>
  decide_eq_true fun heq => h (heq ▸ List.mem_reverse.mp hc)

theorem afterLastPoint_of_notMem {text : List Char} (h : '.' ∉ text) : afterLastPoint text = text := by
  rw [afterLastPoint, List.takeWhile_eq_self_iff.mpr (ne_point_of_mem_reverse h), List.reverse_reverse]

theorem afterLastPoint_append {name : List Char} (h : '.' ∉ name) (qualifier : List Char) :
    afterLastPoint (qualifier ++ '.' :: name) = name := by
  rw [afterLastPoint, List.reverse_append, List.reverse_cons, List.append_assoc, List.singleton_append,
    takeWhile_append_of_stops (ne_point_of_mem_reverse h) (stops_cons rfl), List.reverse_reverse]

/-- What is behind the last point is led by a qualifier and the point. -/
theorem exists_append_afterLastPoint {text : List Char} (h : '.' ∈ text) :
    ∃ qualifier, text = qualifier ++ '.' :: afterLastPoint text := by
  obtain ⟨behind, front, hreverse, hbehind⟩ :=
    List.eq_append_cons_of_mem (List.mem_reverse.mpr h)
  have htext : text = front.reverse ++ '.' :: behind.reverse := by
    rw [← text.reverse_reverse, hreverse]
    simp
  refine ⟨front.reverse, ?_⟩
  rw [htext, afterLastPoint_append fun hmem => hbehind (List.mem_reverse.mp hmem)]

/-! ## Bare names -/

theorem bareChars_of_method {text : List Char} (h : Method text) : bareChars text = text :=
  if_pos ((isMethod_iff text).mpr h)

theorem bareChars_of_not_method {text : List Char} (h : ¬ Method text) :
    bareChars text = afterLastPoint text :=
  if_neg (mt (isMethod_iff text).mp h)

theorem bareChars_of_notMem {text : List Char} (h : '.' ∉ text) : bareChars text = text := by
  rw [bareChars, afterLastPoint_of_notMem h, ite_self]

/-- A name is bare exactly if it has no point or is the one of a method. -/
theorem bareChars_eq_self_iff (text : List Char) :
    bareChars text = text ↔ '.' ∉ text ∨ Method text := by
  constructor
  · intro heq
    by_cases hmethod : Method text
    · exact Or.inr hmethod
    · rw [bareChars_of_not_method hmethod] at heq
      exact Or.inl (heq ▸ point_notMem_afterLastPoint text)
  · rintro (hpoint | hmethod)
    · exact bareChars_of_notMem hpoint
    · exact bareChars_of_method hmethod

/-- What is stripped has no point and so cannot be stripped again. -/
theorem bareChars_bareChars (text : List Char) : bareChars (bareChars text) = bareChars text := by
  by_cases hmethod : Method text
  · rw [bareChars_of_method hmethod, bareChars_of_method hmethod]
  · rw [bareChars_of_not_method hmethod, bareChars_of_notMem (point_notMem_afterLastPoint text)]

/-- A name loses a qualifier and its point exactly if it has a point and is not the one of a method. -/
theorem qualified_iff (text : List Char) :
    (∃ qualifier, text = qualifier ++ '.' :: bareChars text ∧ '.' ∉ bareChars text) ↔
      '.' ∈ text ∧ ¬ Method text := by
  constructor
  · rintro ⟨qualifier, htext, -⟩
    have hne : bareChars text ≠ text := fun heq => by
      have hlength := congrArg List.length htext
      rw [heq, List.length_append, List.length_cons] at hlength
      omega
    simpa [not_or] using mt (bareChars_eq_self_iff text).mpr hne
  · rintro ⟨hpoint, hmethod⟩
    rw [bareChars_of_not_method hmethod]
    obtain ⟨qualifier, htext⟩ := exists_append_afterLastPoint hpoint
    exact ⟨qualifier, htext, point_notMem_afterLastPoint text⟩

theorem toList_bare (identifier : String) : (bare identifier).toList = bareChars identifier.toList :=
  String.toList_ofList

/-- An identifier is its own bare name exactly if it has no point or is a method, and has its bare name
behind its last point exactly if it has one and is none. A bare name is its own, and finds the same dump
as the identifier. -/
theorem bare_derived (identifier : String) :
    (bare identifier = identifier ↔ '.' ∉ identifier.toList ∨ Method identifier.toList) ∧
      ((∃ qualifier, identifier.toList = qualifier ++ '.' :: (bare identifier).toList ∧
          '.' ∉ (bare identifier).toList) ↔
        '.' ∈ identifier.toList ∧ ¬ Method identifier.toList) ∧
      bare (bare identifier) = bare identifier ∧
      ∀ output, Dump.extract output identifier = Dump.extract output (bare identifier) := by
  refine ⟨?_, ?_, ?_, fun output => ?_⟩
  · rw [← bareChars_eq_self_iff, ← toList_bare, String.toList_inj]
  · rw [toList_bare]
    exact qualified_iff identifier.toList
  · rw [bare, toList_bare, bareChars_bareChars, bare]
  · rw [Dump.extract, Dump.extract, toList_bare, bareChars_bareChars]

end SsaLens.Symbol
