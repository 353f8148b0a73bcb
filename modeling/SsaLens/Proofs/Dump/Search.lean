import SsaLens.Proofs.Dump.FileName
import SsaLens.Proofs.Dump.Heading
import SsaLens.Proofs.Text.Offset

/-! # Searching any output

Nothing is assumed of the output here. A dump is found exactly if some opening of the function has a
closing from there on. What is found is what lies between the first opening and the first closing from
there on. The offsets and positions at which the output is cut are always there.
-/

namespace SsaLens.Dump

open Text

/-- The text from the first marker in an output up to the first closing from there on, with what is
before and behind it. -/
structure Spans (marker output front region rest : List Char) : Prop where
  output_eq : output = front ++ (region ++ rest)
  opened : marker <+: region ++ rest
  unopened : ∀ skipped < front.length, ¬ marker <+: output.drop skipped
  closed : closing <+: rest
  unclosed : ∀ skipped < region.length, ¬ closing <+: (region ++ rest).drop skipped

/-- The region that is cut out is the one that the marker spans. -/
theorem region?_eq_some_iff {output symbol region : List Char} :
    region? output symbol = some region ↔
      ∃ front rest, Spans (opening ++ symbol) output front region rest := by
  constructor
  · intro h
    obtain ⟨⟨front, found⟩, hopening, h⟩ := Option.bind_eq_some_iff.mp h
    obtain ⟨⟨inside, rest⟩, hclosing, h⟩ := Option.bind_eq_some_iff.mp h
    obtain rfl := Option.some.inj h
    obtain ⟨houtput, hopened, hunopened⟩ := split?_eq_some_iff.mp hopening
    obtain ⟨rfl, hclosed, hunclosed⟩ := split?_eq_some_iff.mp hclosing
    exact ⟨front, rest, houtput, hopened, hunopened, hclosed, hunclosed⟩
  · rintro ⟨front, rest, h⟩
    have hopening := split?_eq_some_iff.mpr ⟨h.output_eq, h.opened, h.unopened⟩
    have hclosing := split?_eq_some_iff.mpr ⟨rfl, h.closed, h.unclosed⟩
    simp only [region?, hopening, hclosing, Option.bind_eq_bind, Option.bind_some]
    rfl

/-- The region itself holds no closing, because one would begin before the region ends. -/
theorem Spans.region_unclosed {marker output front region rest : List Char}
    (h : Spans marker output front region rest) : ¬ closing <:+: region := by
  intro hwithin
  obtain ⟨skipped, hskipped⟩ := infix_iff_exists_drop.mp hwithin
  have hlt : skipped < region.length := by
    refine Nat.not_le.mp fun hle => ?_
    rw [List.drop_eq_nil_of_le hle, List.prefix_nil] at hskipped
    exact absurd hskipped (by decide)
  refine h.unclosed skipped hlt ?_
  rw [List.drop_append_of_le_length (Nat.le_of_lt hlt)]
  exact hskipped.trans (List.prefix_append _ rest)

/-- Some opening of the symbol has a closing at its beginning or behind it. -/
def Bounded (marker output : List Char) : Prop :=
  ∃ start stop, start ≤ stop ∧ marker <+: output.drop start ∧ closing <+: output.drop stop

/-- A region that a marker spans is bounded by it. -/
theorem Spans.bounded {marker output front region rest : List Char}
    (h : Spans marker output front region rest) : Bounded marker output := by
  refine ⟨front.length, front.length + region.length, Nat.le_add_right _ _, ?_, ?_⟩
  · rw [h.output_eq, List.drop_left]
    exact h.opened
  · rw [h.output_eq, ← List.append_assoc, ← List.length_append, List.drop_left]
    exact h.closed

/-- No region is missed by looking at the first opening only. -/
theorem region?_eq_none_iff {output symbol : List Char} :
    region? output symbol = none ↔ ¬ Bounded (opening ++ symbol) output := by
  constructor
  · rintro hnone ⟨start, stop, hle, hstart, hstop⟩
    obtain ⟨⟨front, found⟩, hopening⟩ :=
      Option.isSome_iff_exists.mp (occurs_iff.mpr (infix_iff_exists_drop.mpr ⟨start, hstart⟩))
    obtain ⟨rfl, -, hunopened⟩ := split?_eq_some_iff.mp hopening
    have hfirst : front.length ≤ start := Nat.not_lt.mp fun hlt => hunopened start hlt hstart
    -- the closing is behind the first opening, too
    have hclosing : closing <:+: found := by
      refine infix_iff_exists_drop.mpr ⟨stop - front.length, ?_⟩
      rwa [List.drop_append, List.drop_eq_nil_of_le (hfirst.trans hle), List.nil_append] at hstop
    obtain ⟨⟨region, rest⟩, hregion⟩ := Option.isSome_iff_exists.mp (occurs_iff.mpr hclosing)
    simp [region?, hopening, hregion] at hnone
  · intro hunbounded
    refine Option.eq_none_iff_forall_ne_some.mpr fun region hregion => ?_
    obtain ⟨front, rest, hspans⟩ := region?_eq_some_iff.mp hregion
    exact hunbounded hspans.bounded

/-! ## The lines of a region -/

theorem regionLines_ne_nil (region : List Char) : regionLines region ≠ [] := by
  intro hnil
  rw [regionLines] at hnil
  split at hnil
  next hlong =>
    have hlength := congrArg List.length hnil
    rw [List.length_dropLast, List.length_nil] at hlength
    omega
  next => simp [pieces] at hnil

/-- Lines without an empty one at the end. -/
def withoutEmptyLast (lines : List (List Char)) : List (List Char) :=
  if lines.getLast? = some [] then lines.dropLast else lines

/-- The rows of a region are its pieces from the third on. -/
theorem rows_ofLines_regionLines (region : List Char) :
    (ofLines (regionLines region)).rows.map String.toList =
      withoutEmptyLast (((pieces region).drop 2).map dropReturn) := by
  rw [regionLines]
  rcases hpieces : pieces region with _ | ⟨first, _ | ⟨header, rows⟩⟩
  · simp [pieces] at hpieces
  · rfl
  rcases List.eq_nil_or_concat rows with rfl | ⟨init, last, rfl⟩
  · rfl
  -- with two lines in front, the last row is left out exactly if it is the empty last line
  have hparts : (first :: header :: init.concat last).map dropReturn =
      (dropReturn first :: dropReturn header :: init.map dropReturn) ++ [dropReturn last] := by
    simp
  have hrows : ((first :: header :: init.concat last).drop 2).map dropReturn =
      init.map dropReturn ++ [dropReturn last] := by
    simp
  rw [hparts, hrows, withoutEmptyLast]
  simp only [List.getLast?_concat, List.dropLast_concat]
  by_cases hempty : dropReturn last = []
  · simp [hempty, ofLines]
  · simp [hempty, ofLines]

theorem rows_ofLines_subset {lines : List (List Char)} :
    ∀ row ∈ (ofLines lines).rows, row.toList ∈ lines := by
  intro row hrow
  rcases lines with _ | ⟨first, _ | ⟨header, rest⟩⟩
  · exact absurd hrow List.not_mem_nil
  · exact absurd hrow List.not_mem_nil
  · obtain ⟨line, hline, rfl⟩ := List.mem_map.mp hrow
    rw [String.toList_ofList]
    exact List.mem_cons_of_mem _ (List.mem_cons_of_mem _ hline)

/-- Each row of a region is one of the region's lines. -/
theorem exists_piece_of_mem_rows {region : List Char} {row : String}
    (h : row ∈ (ofLines (regionLines region)).rows) :
    ∃ piece ∈ pieces region, dropReturn piece = row.toList :=
  exists_piece_of_mem_regionLines (rows_ofLines_subset row h)

/-- No row of an extracted dump has a line ending. -/
theorem newline_notMem_of_extract {output identifier : String} {dump : Dump}
    (h : extract output identifier = some dump) : ∀ row ∈ dump.rows, '\n' ∉ row.toList := by
  obtain ⟨region, -, rfl⟩ := Option.map_eq_some_iff.mp h
  intro row hrow hmem
  obtain ⟨piece, hpiece, hline⟩ := exists_piece_of_mem_rows hrow
  rw [← hline] at hmem
  exact newline_notMem_of_mem_pieces hpiece ((dropReturn_sublist piece).subset hmem)

/-- No row has the closing marker, as the region ends in front of it. -/
theorem unclosed_of_mem_rows {region : List Char} (h : ¬ closing <:+: region) :
    ∀ row ∈ (ofLines (regionLines region)).rows, ¬ closing <:+: row.toList := by
  intro row hrow hwithin
  obtain ⟨piece, hpiece, hline⟩ := exists_piece_of_mem_rows hrow
  rw [← hline] at hwithin
  have hpiece' : closing <:+: piece := hwithin.trans (dropReturn_prefix_self piece).isInfix
  exact h ((infix_iff_exists_piece newline_notMem_closing).mpr ⟨piece, hpiece, hpiece'⟩)

/-! ## Offsets and positions -/

/-- The elements from a position on, which is not behind the end. -/
def from? (lines : List (List Char)) (start : Nat) : Option (List (List Char)) :=
  if start ≤ lines.length then some (lines.drop start) else none

/-- The lines of a region taken apart by position: the header is the second line or the only one. -/
def ofLines? (lines : List (List Char)) : Option Dump :=
  match min lines.length 2 with
  | 0 => none
  | last + 1 => do
      let header ← lines[last]?
      let rows ← from? lines (last + 1)
      pure ⟨rows.map String.ofList, fileNameOf header⟩

/-- An extraction that cuts the output at offsets in bytes. It comes to nothing where an offset or a
position is not there; otherwise it tells whether there is a dump. -/
def cutOut? (output identifier : String) : Option (Option Dump) :=
  match offset? (String.ofList (marker identifier)) output with
  | none => some none
  | some start => do
      let found ← between? output start output.utf8ByteSize
      match offset? (String.ofList closing) found with
      | none => pure none
      | some length => do
          let region ← between? output start (start + length)
          let dump ← ofLines? (regionLines region.toList)
          pure (some dump)

theorem ofLines?_eq {lines : List (List Char)} (h : lines ≠ []) :
    ofLines? lines = some (ofLines lines) := by
  rcases lines with _ | ⟨first, _ | ⟨header, rows⟩⟩
  · exact absurd rfl h
  · rfl
  · simp [ofLines?, from?, ofLines]

/-- Every offset and every position at which the output is cut is there. -/
theorem cutOut?_eq (output identifier : String) :
    cutOut? output identifier = some (extract output identifier) := by
  rw [cutOut?, offset?, String.toList_ofList, extract, region?, ← marker]
  cases hopening : split? (marker identifier) output.toList with
  | none => rfl
  | some opened =>
      obtain ⟨front, found⟩ := opened
      have hmarker : split? (String.ofList (marker identifier)).toList output.toList =
          some (front, found) := by rw [String.toList_ofList, hopening]
      simp only [Option.map_some, between?_of_split? hmarker, Option.bind_eq_bind, Option.bind_some,
        offset?, String.toList_ofList]
      cases hclosing : split? closing found with
      | none => rfl
      | some closed =>
          obtain ⟨region, rest⟩ := closed
          have hregion : between? output (String.ofList front).utf8ByteSize
              ((String.ofList front).utf8ByteSize + (String.ofList region).utf8ByteSize) =
                some (String.ofList region) := by
            refine between?_eq_some_iff.mpr ⟨String.ofList front, String.ofList rest, ?_, rfl, ?_⟩
            · rw [← String.ofList_append, ← String.ofList_append, List.append_assoc,
                ← (split?_eq_append hclosing).1, ← (split?_eq_append hopening).1, String.ofList_toList]
            · exact String.utf8ByteSize_append
          simp only [Option.map_some, hregion, Option.bind_some, String.toList_ofList,
            ofLines?_eq (regionLines_ne_nil region)]
          rfl

/-- What is extracted from an output, whatever the output is. -/
theorem extract_spans (output identifier : String) :
    cutOut? output identifier = some (extract output identifier) ∧
      (extract output identifier = none ↔ ¬ Bounded (marker identifier) output.toList) ∧
      ∀ dump, extract output identifier = some dump →
        ∃ front region rest, Spans (marker identifier) output.toList front region rest ∧
          (∀ other name front' rest', Spans (marker name) other.toList front' region rest' →
            extract other name = some dump) ∧
          dump.fileName.toList.head? = some '/' ∧
          (∀ row ∈ dump.rows, '\n' ∉ row.toList ∧ ¬ closing <:+: row.toList) ∧
          dump.rows.map String.toList =
            withoutEmptyLast (((pieces region).drop 2).map dropReturn) := by
  refine ⟨cutOut?_eq output identifier, ?_, fun dump hdump => ?_⟩
  · rw [extract, Option.map_eq_none_iff, region?_eq_none_iff, marker]
  · have hlines := newline_notMem_of_extract hdump
    obtain ⟨name, hname, -⟩ := fileName_of_extract hdump
    obtain ⟨region, hregion, rfl⟩ := Option.map_eq_some_iff.mp hdump
    obtain ⟨front, rest, hspans⟩ := region?_eq_some_iff.mp hregion
    refine ⟨front, region, rest, hspans, fun other name front' rest' hother => ?_, ?_,
      fun row hrow => ⟨hlines row hrow, unclosed_of_mem_rows hspans.region_unclosed row hrow⟩,
      rows_ofLines_regionLines region⟩
    · rw [extract, region?_eq_some_iff.mpr ⟨front', rest', hother⟩, Option.map_some]
    · rw [hname, String.toList_ofList, List.head?_cons]

/-- The first of two openings counts, and a single line is taken for the header. -/
example : extract "genssa F genssa F dumped SSA" "F" = some ⟨[], "/genssa F genssa F"⟩ := by decide

end SsaLens.Dump
