import SsaLens.Proofs.Text.Occurrence

/-! # Offsets in bytes

A search can answer with an offset in bytes, and a text can be cut between two offsets. It is cut only
where characters begin or the text ends, and such offsets are what a search answers with.
-/

namespace SsaLens.Text

/-- The offset in bytes of the first occurrence of a pattern. -/
def offset? (pattern text : String) : Option Nat :=
  (split? pattern.toList text.toList).map fun found => (String.ofList found.1).utf8ByteSize

/-- The text between two offsets in bytes. There is none if an offset is within a character or behind
the end, or the offsets are not in order. -/
def between? (text : String) (start stop : Nat) : Option String := do
  let first ← text.pos? ⟨start⟩
  let last ← text.pos? ⟨stop⟩
  (text.slice? first last).map String.Slice.copy

theorem pos?_eq_some_iff {text : String} {offset : String.Pos.Raw} {position : text.Pos} :
    text.pos? offset = some position ↔ position.offset = offset := by
  rw [String.pos?, String.Slice.pos?]
  split
  next hvalid =>
    rw [Option.map_some, Option.some.injEq]
    constructor
    · rintro rfl
      rfl
    · intro heq
      exact String.Pos.ext heq.symm
  next hinvalid =>
    rw [Option.map_none]
    constructor
    · intro h
      simp at h
    · rintro rfl
      exact absurd (by simpa using position.isValid) hinvalid

theorem slice?_eq_some_iff {text part : String} {first last : text.Pos} :
    (text.slice? first last).map String.Slice.copy = some part ↔
      ∃ front back, first.Splits front (part ++ back) ∧ last.Splits (front ++ part) back := by
  rw [← String.copy_slice_eq_iff_splits, String.slice?]
  split
  next hle => simp [hle]
  next hnot => simp [hnot]

theorem between?_eq_some_iff {text part : String} {start stop : Nat} :
    between? text start stop = some part ↔
      ∃ front back, text = front ++ part ++ back ∧ front.utf8ByteSize = start ∧
        (front ++ part).utf8ByteSize = stop := by
  simp only [between?, Option.bind_eq_bind, Option.bind_eq_some_iff, pos?_eq_some_iff,
    slice?_eq_some_iff]
  constructor
  · rintro ⟨first, hstart, last, hstop, front, back, hfirst, hlast⟩
    refine ⟨front, back, hlast.eq_append, ?_, ?_⟩
    · exact congrArg String.Pos.Raw.byteIdx (hfirst.offset_eq_rawEndPos.symm.trans hstart)
    · exact congrArg String.Pos.Raw.byteIdx (hlast.offset_eq_rawEndPos.symm.trans hstop)
  · rintro ⟨front, back, rfl, rfl, rfl⟩
    have hfirst : front.rawEndPos.IsValid (front ++ part ++ back) :=
      String.Pos.Raw.isValid_iff_exists_append.mpr ⟨front, part ++ back, String.append_assoc, rfl⟩
    have hlast : (front ++ part).rawEndPos.IsValid (front ++ part ++ back) :=
      String.Pos.Raw.isValid_iff_exists_append.mpr ⟨front ++ part, back, rfl, rfl⟩
    exact ⟨⟨_, hfirst⟩, rfl, ⟨_, hlast⟩, rfl, front, back, ⟨String.append_assoc, rfl⟩, ⟨rfl, rfl⟩⟩

/-- Where a pattern is found, the text is cut there. -/
theorem between?_of_split? {pattern text : String} {front found : List Char}
    (h : split? pattern.toList text.toList = some (front, found)) :
    between? text (String.ofList front).utf8ByteSize text.utf8ByteSize = some (String.ofList found) := by
  have htext : text = String.ofList front ++ String.ofList found := by
    rw [← String.ofList_append, ← (split?_eq_append h).1, String.ofList_toList]
  refine between?_eq_some_iff.mpr ⟨String.ofList front, "", ?_, rfl, ?_⟩
  · rw [← htext, String.append_empty]
  · rw [← htext]

end SsaLens.Text
