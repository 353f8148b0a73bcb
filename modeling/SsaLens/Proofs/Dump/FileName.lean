import SsaLens.Dump
import SsaLens.Proofs.Text.Lines

/-! # The file name of a dump

A dump names its file by a slash and characters of the compiler's output, in their order. The name is
therefore not empty, and it holds no character that is not in the output.
-/

namespace SsaLens

open scoped List

namespace Text

theorem removeFirst_sublist (pattern text : List Char) : removeFirst pattern text <+ text := by
  unfold removeFirst
  split
  next before found hsplit =>
    rw [(split?_eq_append hsplit).1]
    exact (List.Sublist.refl before).append (List.drop_sublist _ found)
  next => exact List.Sublist.refl _

theorem trim_sublist (text : List Char) : trim text <+ text := by
  have hend : trimEnd (text.dropWhile isBlank) <+ text.dropWhile isBlank := by
    rw [trimEnd, ← List.reverse_sublist, List.reverse_reverse]
    exact List.dropWhile_sublist _
  exact hend.trans (List.dropWhile_sublist _)

theorem dropReturn_prefix_self (line : List Char) : dropReturn line <+: line := by
  unfold dropReturn
  split
  · exact List.dropLast_prefix line
  · exact List.prefix_rfl

theorem dropReturn_sublist (line : List Char) : dropReturn line <+ line :=
  (dropReturn_prefix_self line).sublist

/-- The pieces of a text hold characters of it, in their order. -/
theorem sublist_of_mem_pieces {text piece : List Char} (h : piece ∈ pieces text) : piece <+ text := by
  induction text using piecewise with
  | last text htext =>
      rw [pieces_of_not_mem htext, List.mem_singleton] at h
      rw [h]
  | line first rest hfirst ih =>
      rw [pieces_append_newline _ _ hfirst] at h
      rcases List.mem_cons.mp h with rfl | h
      · exact List.sublist_append_left _ _
      · exact ((ih h).cons '\n').trans (List.sublist_append_right first _)

theorem ofList_slash_ne_empty (name : List Char) : String.ofList ('/' :: name) ≠ "" := by
  intro hempty
  have hchars := congrArg String.toList hempty
  simp at hchars

end Text

namespace Dump

open Text

/-- The region that is cut out stands in the output without a gap. -/
theorem infix_of_region? {output symbol region : List Char} (h : region? output symbol = some region) :
    region <:+: output := by
  obtain ⟨⟨front, found⟩, hopening, h⟩ := Option.bind_eq_some_iff.mp h
  obtain ⟨⟨inside, rest⟩, hclosing, h⟩ := Option.bind_eq_some_iff.mp h
  obtain rfl := Option.some.inj h
  rw [(split?_eq_append hopening).1]
  rw [(split?_eq_append hclosing).1]
  exact (List.prefix_append inside rest).isInfix.trans (List.suffix_append front _).isInfix

theorem region?_sublist {output symbol region : List Char} (h : region? output symbol = some region) :
    region <+ output :=
  (infix_of_region? h).sublist

/-- Each line of a region is one of its pieces, without a trailing carriage return. -/
theorem exists_piece_of_mem_regionLines {region line : List Char} (h : line ∈ regionLines region) :
    ∃ piece ∈ pieces region, dropReturn piece = line := by
  unfold regionLines at h
  dsimp only at h
  split at h
  · exact List.mem_map.mp (List.dropLast_subset _ h)
  · exact List.mem_map.mp h

theorem sublist_of_mem_regionLines {region line : List Char} (h : line ∈ regionLines region) :
    line <+ region := by
  obtain ⟨piece, hpiece, rfl⟩ := exists_piece_of_mem_regionLines h
  exact (dropReturn_sublist piece).trans (sublist_of_mem_pieces hpiece)

/-- The file name is a slash and some characters of the header, in their order. -/
theorem fileNameOf_eq (header : List Char) :
    ∃ name, fileNameOf header = String.ofList ('/' :: name) ∧ name <+ header :=
  ⟨_, rfl, (trim_sublist _).trans ((removeFirst_sublist _ _).trans (removeFirst_sublist _ header))⟩

variable {output identifier : String} {dump : Dump}

/-- The name of the file is a slash and some characters of the output. -/
theorem fileName_of_extract (h : extract output identifier = some dump) :
    ∃ name, dump.fileName = String.ofList ('/' :: name) ∧ name <+ output.toList := by
  obtain ⟨region, hregion, rfl⟩ := Option.map_eq_some_iff.mp h
  have hwhole := region?_sublist hregion
  have hname : ∀ header ∈ regionLines region,
      ∃ name, fileNameOf header = String.ofList ('/' :: name) ∧ name <+ output.toList := by
    intro header hheader
    obtain ⟨name, hname, hpart⟩ := fileNameOf_eq header
    exact ⟨name, hname, hpart.trans ((sublist_of_mem_regionLines hheader).trans hwhole)⟩
  rw [Function.comp_apply]
  rcases hlines : regionLines region with _ | ⟨first, _ | ⟨header, rows⟩⟩
  · obtain ⟨name, hname, hpart⟩ := fileNameOf_eq []
    exact ⟨name, hname, hpart.trans (List.nil_sublist _)⟩
  · exact hname first (by simp [hlines])
  · exact hname header (by simp [hlines])

/-- A dump that was extracted always names a file. -/
theorem fileName_ne_empty (h : extract output identifier = some dump) : dump.fileName ≠ "" := by
  obtain ⟨name, hname, -⟩ := fileName_of_extract h
  exact hname ▸ ofList_slash_ne_empty name

end Dump

end SsaLens
