import SsaLens.Command.Run
import SsaLens.Proofs.Dump.Heading
import SsaLens.Proofs.Path

/-! # The workspace name of a source file

A source file is named from its path below the root, from what a user calls it, and from the dump of one
of its functions. All of them give the same name, and no other file has it.
-/

namespace SsaLens

/-- A source file by its path below the root of the workspace. Its path is one line without blanks at
its ends, and does not look like the end of a dump. -/
@[ext]
structure SourceFile where
  names : List String
  ne_nil : names ≠ []
  ordinary : ∀ name ∈ names, Path.Ordinary name
  one_line : '\n' ∉ ("/".intercalate names).toList
  trimmed : Text.trimmed ("/".intercalate names) = "/".intercalate names
  unclosed : ¬ Dump.closing <:+: ("/".intercalate names).toList

namespace SourceFile

open Text

variable (file : SourceFile)

/-- The path below the root. -/
def text : String := "/".intercalate file.names

/-- The name in the workspace. -/
def name : String := "/" ++ file.text

theorem segments_text : Path.segments (Path.ofString file.text) = file.names.map Path.ofString :=
  Path.segments_intercalate file.ne_nil file.ordinary

/-- Two source files have the same name only if they are the same. -/
theorem name_inj {file other : SourceFile} : file.name = other.name ↔ file = other := by
  constructor
  · intro hname
    have htext : file.text = other.text := by
      rw [← String.toList_inj] at hname ⊢
      simpa [name] using hname
    have hsegments := file.segments_text
    rw [htext, other.segments_text, List.map_inj_right fun _ _ => Path.ofString_inj.mp] at hsegments
    exact SourceFile.ext hsegments.symm
  · intro heq
    rw [heq]

/-! ## The beginning and the end of the path -/

theorem trim_text : trim file.text.toList = file.text.toList := by
  have htrimmed := congrArg String.toList file.trimmed
  rwa [Text.trimmed, String.toList_ofList] at htrimmed

theorem text_leading : Stops isBlank file.text.toList :=
  file.trim_text ▸ stops_trim file.text.toList

theorem text_trailing : Stops isBlank file.text.toList.reverse :=
  file.trim_text ▸ stops_reverse_trim file.text.toList

/-- The first segment of the path is a name, so it is neither empty nor a dot. -/
theorem ordinary_of_segments {segment : String} {rest : List Path}
    (h : Path.segments (Path.ofString file.text) = Path.ofString segment :: rest) :
    Path.Ordinary segment := by
  rw [file.segments_text] at h
  obtain ⟨first, others, hnames⟩ := List.exists_cons_of_ne_nil file.ne_nil
  rw [hnames, List.map_cons, List.cons.injEq, Path.ofString_inj] at h
  obtain ⟨rfl, -⟩ := h
  exact file.ordinary first (hnames ▸ List.mem_cons_self)

theorem head?_text_ne_slash : file.text.toList.head? ≠ some '/' := by
  intro hslash
  obtain ⟨rest, hrest⟩ := List.head?_eq_some_iff.mp hslash
  have hsegments : Path.segments (Path.ofString file.text) =
      Path.ofString "" :: Path.segments (rest.map .char) := by
    rw [Path.ofString, hrest, List.map_cons]
    rfl
  exact (file.ordinary_of_segments hsegments).ne_empty rfl

theorem text_ne_here (rest : List Char) : file.text.toList ≠ ['.', '/'] ++ rest := by
  intro hrest
  have hsegments : Path.segments (Path.ofString file.text) =
      Path.ofString "." :: Path.segments (rest.map .char) := by
    rw [Path.ofString, hrest, List.map_append]
    rfl
  exact (file.ordinary_of_segments hsegments).ne_here rfl

theorem text_ne_nil : file.text.toList ≠ [] := by
  intro hnil
  have hsegments : Path.segments (Path.ofString file.text) = Path.ofString "" :: [] := by
    rw [Path.ofString, hnil]
    rfl
  exact (file.ordinary_of_segments hsegments).ne_empty rfl

/-! ## Names -/

/-- A file below a root has its name, whatever the root is and however the path to it is written. -/
theorem fileName?_path {root path : Path}
    (h : path.components = (root.join (Path.ofString file.text)).components) :
    root.fileName? path = some file.name :=
  Path.fileName?_of_components file.ne_nil
    (h.trans (Path.components_join_names file.ne_nil file.ordinary root))

theorem name_eq_ofList : file.name = String.ofList ('/' :: file.text.toList) := by
  rw [← String.toList_inj, String.toList_ofList, name, String.toList_append]
  rfl

theorem trim_append_text {front : List Char} (hne : front ≠ []) (hfront : Stops isBlank front) :
    trim (front ++ file.text.toList) = front ++ file.text.toList := by
  have hleading : Stops isBlank (front ++ file.text.toList) := by
    intro first hfirst
    rw [List.head?_append_of_ne_nil _ hne] at hfirst
    exact hfront first hfirst
  have htrailing : Stops isBlank (front ++ file.text.toList).reverse := by
    intro last hlast
    rw [List.reverse_append,
      List.head?_append_of_ne_nil _ (mt List.reverse_eq_nil_iff.mp file.text_ne_nil)] at hlast
    exact file.text_trailing last hlast
  exact trim_append (List.forall_mem_nil _) hleading htrailing

theorem workspaceName_text : workspaceName file.text = file.name := by
  have hafter : after? ['.', '/'] file.text.toList = none := by
    rw [Option.eq_none_iff_forall_ne_some]
    intro rest hrest
    exact file.text_ne_here rest (after?_eq_some_iff.mp hrest)
  rw [workspaceName, file.trim_text, hafter, Option.getD_none, if_neg file.head?_text_ne_slash,
    name_eq_ofList]

theorem workspaceName_here : workspaceName ("./" ++ file.text) = file.name := by
  have hgiven : ("./" ++ file.text).toList = ['.', '/'] ++ file.text.toList := String.toList_append
  have hafter : after? ['.', '/'] (['.', '/'] ++ file.text.toList) = some file.text.toList :=
    after?_eq_some_iff.mpr rfl
  rw [workspaceName, hgiven, file.trim_append_text (by decide) (by decide), hafter, Option.getD_some,
    if_neg file.head?_text_ne_slash, name_eq_ofList]

theorem workspaceName_slash : workspaceName ("/" ++ file.text) = file.name := by
  have hgiven : ("/" ++ file.text).toList = ['/'] ++ file.text.toList := String.toList_append
  have hafter : after? ['.', '/'] (['/'] ++ file.text.toList) = none := by
    simp [after?, List.isPrefixOf]
  rw [workspaceName, hgiven, file.trim_append_text (by decide) (by decide), hafter, Option.getD_none]
  exact (if_pos rfl).trans file.name_eq_ofList.symm

/-- A dump that names the file is found under its name. -/
theorem extract_heading {identifier : String} (heading : Dump.Heading identifier file.text) :
    ∃ dump, Dump.extract heading.output identifier = some dump ∧ dump.fileName = file.name :=
  heading.exists_extract file.one_line file.unclosed file.text_leading file.text_trailing

end SourceFile

end SsaLens
