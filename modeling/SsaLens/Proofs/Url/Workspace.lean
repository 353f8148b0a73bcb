import Mathlib.Data.List.Basic
import SsaLens.Url

/-! # Files of a workspace

A URL names a file by an absolute path. If it is found below the root of a workspace, then the root is
absolute too, and neither the root nor the name of the file in the workspace is an empty text.
-/

namespace SsaLens

namespace Path

/-- A file below a root has names there, one at least, and its workspace name joins them. -/
theorem fileName?_eq_some_iff {root path : Path} {fileName : String} :
    root.fileName? path = some fileName ↔ ∃ below names, below? root path = some below ∧
      names? below = some names ∧ names ≠ [] ∧
        String.join (names.map fun name => "/" ++ shown name) = fileName := by
  simp [fileName?, Option.bind_eq_some_iff]

theorem fileName_ne_empty {root path : Path} {fileName : String}
    (h : root.fileName? path = some fileName) : fileName ≠ "" := by
  obtain ⟨-, names, -, -, hnames, rfl⟩ := fileName?_eq_some_iff.mp h
  obtain ⟨name, rest, rfl⟩ := List.exists_cons_of_ne_nil hnames
  rw [List.map_cons, String.join_cons]
  simp [String.append_eq_empty_iff]

/-- Only names are left below a root, so an absolute path is not below the empty one. -/
theorem root_ne_nil_of_fileName? {root path : Path} {fileName : String}
    (habsolute : path.components.head? = some .root) (h : root.fileName? path = some fileName) :
    root ≠ [] := by
  rintro rfl
  obtain ⟨below, names, hbelow, hall, -⟩ := fileName?_eq_some_iff.mp h
  have hsame : path.components = below := by
    simpa [below?, show components [] = [] from rfl] using hbelow
  obtain ⟨more, hmore⟩ := List.head?_eq_some_iff.mp habsolute
  rw [← hsame, hmore] at hall
  exact absurd hall (Option.some_ne_none names).symm

theorem shown_ne_empty {path : Path} (h : path ≠ []) : path.shown ≠ "" := by
  obtain ⟨piece, rest, rfl⟩ := List.exists_cons_of_ne_nil h
  simp [shown]

end Path

namespace Url

theorem closeDrive_eq_append (bytes : List UInt8) : ∃ back, closeDrive bytes = bytes ++ back := by
  unfold closeDrive
  split
  · split
    · exact ⟨[0x2f], rfl⟩
    · exact ⟨[], (List.append_nil bytes).symm⟩
  · exact ⟨[], (List.append_nil bytes).symm⟩

theorem decode_slash (rest : List Char) : Percent.decode ('/' :: rest) = 0x2f :: Percent.decode rest := by
  rw [Percent.decode]
  · rfl
  · simp

/-- The file of a URL is given by an absolute path. -/
theorem components_file? {url : Url} {path : Path} (h : url.file? = some path) :
    path.components.head? = some .root := by
  obtain ⟨⟨hslash, -⟩, hpath⟩ := Option.ite_none_right_eq_some.mp h
  obtain rfl := Option.some.inj hpath
  obtain ⟨rest, hrest⟩ := List.head?_eq_some_iff.mp hslash
  rw [hrest, decode_slash]
  obtain ⟨back, hback⟩ := closeDrive_eq_append (0x2f :: Percent.decode rest)
  rw [hback]
  rfl

variable {root : Path} {url : Url} {fileName : String}

theorem root_shown_ne_empty (h : url.fileName? root = some fileName) : root.shown ≠ "" := by
  obtain ⟨path, hpath, hname⟩ := Option.bind_eq_some_iff.mp h
  exact Path.shown_ne_empty (Path.root_ne_nil_of_fileName? (components_file? hpath) hname)

theorem fileName?_ne_empty (h : url.fileName? root = some fileName) : fileName ≠ "" := by
  obtain ⟨path, -, hname⟩ := Option.bind_eq_some_iff.mp h
  exact Path.fileName_ne_empty hname

end Url

end SsaLens
