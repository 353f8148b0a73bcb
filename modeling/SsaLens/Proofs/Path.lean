import SsaLens.Proofs.Url.Workspace

/-! # Files below a root

A relative path is put behind a root with one slash between them. Its names are then components behind
those of the root, however the root is written, and they make its name in the workspace.
-/

namespace SsaLens.Path

/-- A path below a root, or the path alone if the root is empty. -/
def join (root path : Path) : Path :=
  if root = [] ∨ root.getLast? = some slash then root ++ path else root ++ slash :: path

/-- A name of a directory or a file: it stands for itself wherever it is in a path. -/
structure Ordinary (name : String) : Prop where
  ne_empty : name ≠ ""
  slash_notMem : '/' ∉ name.toList
  ne_here : name ≠ "."
  ne_up : name ≠ ".."

instance (name : String) : Decidable (Ordinary name) :=
  decidable_of_iff (name ≠ "" ∧ '/' ∉ name.toList ∧ name ≠ "." ∧ name ≠ "..")
    ⟨fun ⟨hempty, hslash, hhere, hup⟩ => ⟨hempty, hslash, hhere, hup⟩,
      fun h => ⟨h.ne_empty, h.slash_notMem, h.ne_here, h.ne_up⟩⟩

/-! ## Segments and components -/

/-- What stands in front of a slash and what stands behind it are cut into segments on their own. -/
theorem cut_append_slash (front rest : Path) :
    cut (front ++ slash :: rest) = ((cut front).1, (cut front).2 ++ segments rest) := by
  induction front with
  | nil => simp [cut, segments]
  | cons piece front ih =>
      by_cases h : piece = slash
      · simp [cut, h, ih]
      · simp [cut, h, ih]

theorem cut_of_notMem {path : Path} (h : slash ∉ path) : cut path = (path, []) := by
  induction path with
  | nil => rfl
  | cons piece path ih =>
      obtain ⟨hpiece, hpath⟩ := not_or.mp (mt List.mem_cons.mpr h)
      simp [cut, Ne.symm hpiece, ih hpath]

theorem first?_append {front : Path} (h : front ≠ []) (rest segment : Path) :
    first? (front ++ rest) segment = first? front segment := by
  simp only [first?, h, List.append_eq_nil_iff, false_and, if_false]

/-- What follows a slash is read as components of its own. -/
theorem components_append_slash {front : Path} (h : front ≠ []) (rest : Path) :
    components (front ++ slash :: rest) = components front ++ (segments rest).filterMap inner? := by
  rw [components, components, cut_append_slash, first?_append h, List.filterMap_append,
    List.append_assoc]

/-- A path that begins with a slash begins at the root. -/
theorem components_slash (rest : Path) :
    components (slash :: rest) = .root :: (segments rest).filterMap inner? := by
  simp [components, first?, cut, segments]

/-- A slash at the end is no component. -/
theorem components_concat_slash_append (front rest : Path) :
    components ((front ++ [slash]) ++ rest) =
      components (front ++ [slash]) ++ (segments rest).filterMap inner? := by
  -- the empty segment behind the last slash
  have hnone : (segments []).filterMap inner? = [] := by decide
  rw [List.append_assoc, List.singleton_append]
  rcases eq_or_ne front [] with rfl | hfront
  · rw [List.nil_append, List.nil_append, components_slash, components_slash, hnone,
      List.singleton_append]
  · rw [components_append_slash hfront, components_append_slash hfront, hnone, List.append_nil]

/-- A path that is joined below a root adds the components of its segments to those of the root. -/
theorem components_join {root : Path} (hroot : root ≠ []) (path : Path) :
    components (join root path) = components root ++ (segments path).filterMap inner? := by
  unfold join
  split
  next hend =>
    obtain ⟨front, rfl⟩ := List.getLast?_eq_some_iff.mp (hend.resolve_left hroot)
    exact components_concat_slash_append front path
  next => exact components_append_slash hroot path

/-! ## Names -/

theorem ofString_append (first second : String) :
    ofString (first ++ second) = ofString first ++ ofString second := by
  simp [ofString]

theorem ofString_inj {first second : String} : ofString first = ofString second ↔ first = second := by
  rw [ofString, ofString, List.map_inj_right fun _ _ => Text.Utf8.Piece.char.inj, String.toList_inj]

/-- A path has a slash exactly if its text has one. -/
theorem slash_mem_ofString {text : String} : slash ∈ ofString text ↔ '/' ∈ text.toList := by
  simp [ofString, slash]

theorem shown_ofString (text : String) : shown (ofString text) = text := by
  have hshown : (Text.Utf8.Piece.shown ∘ Text.Utf8.Piece.char) = id := rfl
  rw [shown, ofString, List.map_map, hshown, List.map_id, String.ofList_toList]

theorem Ordinary.inner? {name : String} (h : Ordinary name) :
    inner? (ofString name) = some (.name (ofString name)) := by
  have hempty : ofString name ≠ [] := fun hnil => h.ne_empty (ofString_inj.mp hnil)
  have hhere : ofString name ≠ dot := fun hdot => h.ne_here (ofString_inj.mp hdot)
  have hup : ofString name ≠ dots := fun hdots => h.ne_up (ofString_inj.mp hdots)
  rw [Path.inner?, if_neg (not_or.mpr ⟨hempty, hhere⟩), if_neg hup]

theorem Ordinary.first? {name : String} (h : Ordinary name) (path : Path) :
    first? path (ofString name) = some (.name (ofString name)) := by
  have hempty : ofString name ≠ [] := fun hnil => h.ne_empty (ofString_inj.mp hnil)
  have hhere : ofString name ≠ dot := fun hdot => h.ne_here (ofString_inj.mp hdot)
  rw [Path.first?, if_neg hempty, if_neg hhere, h.inner?]

section Names

variable {names : List String} (hne : names ≠ []) (hnames : ∀ name ∈ names, Ordinary name)

include hne hnames

/-- Names that are joined by slashes are the segments of what they make. -/
theorem segments_intercalate : segments (ofString ("/".intercalate names)) = names.map ofString := by
  induction names with
  | nil => exact absurd rfl hne
  | cons name rest ih =>
      obtain ⟨hname, hrest⟩ := List.forall_mem_cons.mp hnames
      have hcut : cut (ofString name) = (ofString name, []) :=
        cut_of_notMem (mt slash_mem_ofString.mp hname.slash_notMem)
      cases rest with
      | nil => rw [String.intercalate_singleton, segments, hcut, List.map_singleton]
      | cons next rest =>
          have hsplit : ofString ("/".intercalate (name :: next :: rest)) =
              ofString name ++ slash :: ofString ("/".intercalate (next :: rest)) := by
            rw [String.intercalate_cons_cons, ofString_append, ofString_append, List.append_assoc]
            rfl
          -- the first name has no slash, so it is the whole first segment
          rw [hsplit, segments, cut_append_slash, hcut, ih (List.cons_ne_nil next rest) hrest]
          rfl

theorem filterMap_segments_intercalate :
    (segments (ofString ("/".intercalate names))).filterMap inner? =
      names.map fun name => .name (ofString name) := by
  rw [segments_intercalate hne hnames, List.filterMap_map]
  exact List.filterMap_eq_map_iff_forall_eq_some.mpr fun name hname => (hnames name hname).inner?

/-- Ordinary names that are joined by slashes are the components of what they make. -/
theorem components_intercalate :
    components (ofString ("/".intercalate names)) = names.map fun name => .name (ofString name) := by
  obtain ⟨name, rest, rfl⟩ := List.exists_cons_of_ne_nil hne
  have hsegments := segments_intercalate hne hnames
  have hinner := filterMap_segments_intercalate hne hnames
  rw [segments, List.map_cons, List.cons.injEq] at hsegments
  have hname := hnames name List.mem_cons_self
  rw [segments, hsegments.1, List.filterMap_cons_some hname.inner?] at hinner
  rw [components, hsegments.1, hname.first?]
  exact hinner

end Names

/-! ## The name of a file in the workspace -/

theorem names?_map_name (names : List Path) : names? (names.map .name) = some names := by
  induction names with
  | nil => rfl
  | cons name rest ih => rw [List.map_cons, names?, ih, Option.map_some]

/-- Components are names if each of them is an ordinary one. -/
theorem names?_eq_some_iff {components : List Component} {names : List Path} :
    names? components = some names ↔ components = names.map .name := by
  constructor
  · intro h
    induction components generalizing names with
    | nil =>
        obtain rfl := Option.some.inj h
        rfl
    | cons component rest ih =>
        cases component with
        | root | here | up => simp [names?] at h
        | name text =>
            obtain ⟨others, hrest, rfl⟩ := Option.map_eq_some_iff.mp h
            rw [List.map_cons, ih hrest]
  · rintro rfl
    exact names?_map_name names

/-- What is below a root is what follows the root's components. -/
theorem below?_eq_some_iff {root path : Path} {below : List Component} :
    below? root path = some below ↔ path.components = root.components ++ below := by
  rw [below?, Option.ite_none_right_eq_some, List.isPrefixOf_iff_prefix]
  constructor
  · rintro ⟨⟨rest, hrest⟩, hbelow⟩
    rw [← hrest, List.drop_left, Option.some.injEq] at hbelow
    rw [← hrest, hbelow]
  · intro h
    rw [h, List.drop_left]
    exact ⟨List.prefix_append _ _, rfl⟩

theorem join_slash_names {names : List String} (h : names ≠ []) :
    String.join (names.map ("/" ++ ·)) = "/" ++ "/".intercalate names := by
  induction names with
  | nil => exact absurd rfl h
  | cons name rest ih =>
      cases rest with
      | nil => simp
      | cons next rest =>
          rw [List.map_cons, String.join_cons, ih (List.cons_ne_nil next rest),
            String.intercalate_cons_cons, String.append_assoc, String.append_assoc]

/-- A path whose components lead below the root by names is named by them. -/
theorem fileName?_of_components {root path : Path} {names : List String} (hne : names ≠ [])
    (h : path.components = root.components ++ names.map fun name => .name (ofString name)) :
    root.fileName? path = some ("/" ++ "/".intercalate names) := by
  refine fileName?_eq_some_iff.mpr ⟨(names.map ofString).map .name, names.map ofString, ?_, ?_, ?_, ?_⟩
  · rw [below?_eq_some_iff, h, List.map_map]
    rfl
  · exact names?_map_name _
  · simpa using hne
  · rw [List.map_map, ← join_slash_names hne]
    simp only [Function.comp_def, shown_ofString]

/-- A file below a root is named by what is behind the root, whatever the root is. -/
theorem components_join_names {names : List String} (hne : names ≠ [])
    (hnames : ∀ name ∈ names, Ordinary name) (root : Path) :
    components (join root (ofString ("/".intercalate names))) =
      components root ++ names.map fun name => .name (ofString name) := by
  rcases eq_or_ne root [] with rfl | hroot
  · exact components_intercalate hne hnames
  · rw [components_join hroot, filterMap_segments_intercalate hne hnames]

end SsaLens.Path
