import SsaLens.Proofs.Path

/-! # Names and places

A file has a name in a workspace exactly if its path goes on behind the root of the workspace, by
ordinary names only. The name lists them, so it says where the file is: two paths have one name
exactly if they have the same components.
-/

namespace SsaLens.Path

/-! ## The segments of a text -/

theorem segments_slash_cons (path : Path) : segments (slash :: path) = [] :: segments path := by
  simp [segments, cut]

theorem segments_cons_of_ne {piece : Text.Utf8.Piece} (h : piece ≠ slash) (path : Path) :
    segments (piece :: path) = (piece :: (cut path).1) :: (cut path).2 := by
  simp [segments, cut, h]

/-- A segment holds pieces of the path, and no slash. -/
theorem of_mem_segments {path segment : Path} (h : segment ∈ segments path) :
    (∀ piece ∈ segment, piece ∈ path) ∧ slash ∉ segment := by
  induction path generalizing segment with
  | nil =>
      obtain rfl := List.mem_singleton.mp h
      exact ⟨List.forall_mem_nil _, List.not_mem_nil⟩
  | cons piece path ih =>
      -- a segment of the rest is one of the longer path, too
      have hlater : segment ∈ segments path →
          (∀ other ∈ segment, other ∈ piece :: path) ∧ slash ∉ segment := fun hsegment =>
        ⟨fun other hother => List.mem_cons_of_mem _ ((ih hsegment).1 other hother), (ih hsegment).2⟩
      by_cases hslash : piece = slash
      · rw [hslash, segments_slash_cons] at h
        rcases List.mem_cons.mp h with rfl | h
        · exact ⟨List.forall_mem_nil _, List.not_mem_nil⟩
        · exact hlater h
      · rw [segments_cons_of_ne hslash] at h
        rcases List.mem_cons.mp h with rfl | h
        · -- the first segment of the rest goes on with this piece
          obtain ⟨hpart, hnone⟩ := ih (List.mem_cons_self : (cut path).1 ∈ segments path)
          refine ⟨List.forall_mem_cons.mpr ⟨List.mem_cons_self, fun other hother => ?_⟩, ?_⟩
          · exact List.mem_cons_of_mem _ (hpart other hother)
          · exact fun hmem => (List.mem_cons.mp hmem).elim (hslash ∘ Eq.symm) hnone
        · exact hlater (List.mem_cons_of_mem _ h)

/-- A segment of a text is a text. -/
theorem ofString_shown_segment {text : String} {segment : Path} (h : segment ∈ segments (ofString text)) :
    ofString segment.shown = segment := by
  have hchar : ∀ piece ∈ segment, Text.Utf8.Piece.char piece.shown = piece := by
    intro piece hpiece
    obtain ⟨c, -, rfl⟩ := List.mem_map.mp ((of_mem_segments h).1 piece hpiece)
    rfl
  rw [ofString, shown, String.toList_ofList, List.map_map]
  exact (List.map_congr_left hchar).trans (List.map_id segment)

/-! ## Names among the components -/

/-- A segment is a name if it is neither empty nor one of the two that move in the tree. -/
theorem inner?_eq_some_name_iff {segment name : Path} :
    inner? segment = some (.name name) ↔
      segment = name ∧ name ≠ [] ∧ name ≠ dot ∧ name ≠ dots := by
  unfold inner?
  split
  next hnone =>
    simp only [reduceCtorEq, false_iff, not_and]
    rintro rfl hempty hdot
    exact absurd hnone (not_or.mpr ⟨hempty, hdot⟩)
  next hsome =>
    obtain ⟨hempty, hdot⟩ := not_or.mp hsome
    split
    next hdots =>
      simp only [Option.some.injEq, reduceCtorEq, false_iff, not_and]
      rintro rfl - - hother
      exact hother hdots
    next hother =>
      simp only [Option.some.injEq, Component.name.injEq]
      exact ⟨fun heq => heq ▸ ⟨rfl, hempty, hdot, hother⟩, fun h => h.1⟩

theorem first?_eq_some_name {path segment name : Path} (h : first? path segment = some (.name name)) :
    inner? segment = some (.name name) := by
  unfold first? at h
  split at h
  · split at h <;> simp at h
  split at h
  · simp at h
  · exact h

/-- A name among the components of a path is one of the path's segments. -/
theorem inner?_of_name_mem_components {path name : Path} (h : .name name ∈ components path) :
    ∃ segment ∈ segments path, inner? segment = some (.name name) := by
  rcases List.mem_append.mp h with h | h
  · exact ⟨(cut path).1, List.mem_cons_self, first?_eq_some_name (Option.mem_toList.mp h)⟩
  · obtain ⟨segment, hsegment, hname⟩ := List.mem_filterMap.mp h
    exact ⟨segment, List.mem_cons_of_mem _ hsegment, hname⟩

/-- A name among the components of a text is an ordinary one. -/
theorem ordinary_of_name_mem {text : String} {name : Path}
    (h : .name name ∈ components (ofString text)) :
    Ordinary name.shown ∧ ofString name.shown = name := by
  obtain ⟨segment, hsegment, hname⟩ := inner?_of_name_mem_components h
  obtain ⟨rfl, hempty, hdot, hdots⟩ := inner?_eq_some_name_iff.mp hname
  have hshown := ofString_shown_segment hsegment
  refine ⟨⟨?_, ?_, ?_, ?_⟩, hshown⟩
  · exact fun heq => hempty (by rw [← hshown, heq]; rfl)
  · exact fun hmem => (of_mem_segments hsegment).2 (hshown ▸ slash_mem_ofString.mpr hmem)
  · exact fun heq => hdot (by rw [← hshown, heq]; rfl)
  · exact fun heq => hdots (by rw [← hshown, heq]; rfl)

/-! ## What leads from a root to a file -/

/-- The names that lead from a root to a path. -/
structure Leads (root path : Path) (names : List String) : Prop where
  ne_nil : names ≠ []
  ordinary : ∀ name ∈ names, Ordinary name
  components_eq : path.components = root.components ++ names.map fun name => .name (ofString name)

/-- Names as one name: a slash before each of them. -/
def slashed (names : List String) : String := String.join (names.map ("/" ++ ·))

/-- Names with a slash in front of each are the components of an absolute path. -/
theorem components_slashed {names : List String} (hne : names ≠ [])
    (hnames : ∀ name ∈ names, Ordinary name) :
    components (ofString (slashed names)) = .root :: names.map fun name => .name (ofString name) := by
  have hslash : ofString ("/" ++ "/".intercalate names) =
      slash :: ofString ("/".intercalate names) := ofString_append _ _
  rw [slashed, join_slash_names hne, hslash, components_slash,
    filterMap_segments_intercalate hne hnames]

/-- Ordinary names can be told from the text they make. -/
theorem slashed_inj {names others : List String} (hnames : ∀ name ∈ names, Ordinary name)
    (hothers : ∀ name ∈ others, Ordinary name) (hne : names ≠ []) (hne' : others ≠ [])
    (h : slashed names = slashed others) : names = others := by
  have hcomponents := congrArg (fun name => components (ofString name)) h
  rw [components_slashed hne hnames, components_slashed hne' hothers, List.cons.injEq] at hcomponents
  exact (List.map_inj_right fun _ _ heq => ofString_inj.mp (Component.name.inj heq)).mp hcomponents.2

section Leads

variable {root : Path} {path name : String}

/-- A path is named below a root exactly if it leads there by ordinary names. -/
theorem fileName?_eq_some_iff_leads :
    root.fileName? (ofString path) = some name ↔
      ∃ names, Leads root (ofString path) names ∧ name = slashed names := by
  constructor
  · intro h
    obtain ⟨below, names, hbelow, hall, hne, rfl⟩ := fileName?_eq_some_iff.mp h
    obtain rfl := names?_eq_some_iff.mp hall
    have hcomponents := below?_eq_some_iff.mp hbelow
    have hparts : ∀ name ∈ names, Ordinary name.shown ∧ ofString name.shown = name := by
      intro name hname
      have hmem : .name name ∈ components (ofString path) := by
        rw [hcomponents]
        exact List.mem_append_right _ (List.mem_map_of_mem hname)
      exact ordinary_of_name_mem hmem
    have hwritten : names.map (ofString ∘ shown) = names :=
      (List.map_congr_left fun name hname => (hparts name hname).2).trans (List.map_id names)
    refine ⟨names.map shown, ⟨mt List.map_eq_nil_iff.mp hne, ?_, ?_⟩, ?_⟩
    · exact List.forall_mem_map.mpr fun name hname => (hparts name hname).1
    · conv_lhs => rw [hcomponents, ← hwritten]
      rw [List.map_map, List.map_map]
      rfl
    · rw [slashed, List.map_map]
      rfl
  · rintro ⟨names, h, rfl⟩
    rw [slashed, join_slash_names h.ne_nil]
    exact fileName?_of_components h.ne_nil h.components_eq

/-- A path that leads below the root has the root's components and then those of its name. -/
theorem Leads.components_eq_append_tail {names : List String}
    (h : Leads root (ofString path) names) :
    (ofString path).components =
      root.components ++ (components (ofString (slashed names))).tail := by
  rw [h.components_eq, components_slashed h.ne_nil h.ordinary, List.tail_cons]

/-- What leads to a path leads to every path with the same components, and to no other one. -/
theorem Leads.iff_components_eq {names : List String} (h : Leads root (ofString path) names)
    {other : Path} : Leads root other names ↔ other.components = (ofString path).components := by
  constructor
  · intro hother
    rw [hother.components_eq, h.components_eq]
  · intro heq
    exact ⟨h.ne_nil, h.ordinary, heq.trans h.components_eq⟩

end Leads

/-- A path is named by the names that lead to it from the root, so that root and name give its
components again. Outside the root, at the root itself and behind a step up there are no names. -/
theorem named_iff_leads (root : Path) (path : String) :
    (∀ name, root.fileName? (ofString path) = some name ↔
        ∃ names, Leads root (ofString path) names ∧ name = slashed names) ∧
      (∀ name, root.fileName? (ofString path) = some name →
        (components (ofString name)).head? = some .root ∧
          (ofString path).components = root.components ++ (components (ofString name)).tail ∧
          ∀ other, root.fileName? (ofString other) = some name ↔
            (ofString other).components = (ofString path).components) ∧
      (¬ root.components <+: (ofString path).components → root.fileName? (ofString path) = none) ∧
      ((ofString path).components = root.components → root.fileName? (ofString path) = none) ∧
      ∀ below, (ofString path).components = root.components ++ below → .up ∈ below →
        root.fileName? (ofString path) = none := by
  have hnone : (∀ names, ¬ Leads root (ofString path) names) →
      root.fileName? (ofString path) = none := by
    intro hnever
    refine Option.eq_none_iff_forall_ne_some.mpr fun name hname => ?_
    obtain ⟨names, hleads, -⟩ := fileName?_eq_some_iff_leads.mp hname
    exact hnever names hleads
  refine ⟨fun name => fileName?_eq_some_iff_leads, fun name hname => ?_, fun houtside => ?_,
    fun hroot => ?_, fun below hbelow hup => ?_⟩
  · obtain ⟨names, hleads, rfl⟩ := fileName?_eq_some_iff_leads.mp hname
    refine ⟨?_, hleads.components_eq_append_tail, fun other => ?_⟩
    · rw [components_slashed hleads.ne_nil hleads.ordinary, List.head?_cons]
    · rw [fileName?_eq_some_iff_leads, ← hleads.iff_components_eq]
      constructor
      · rintro ⟨others, hother, heq⟩
        rwa [slashed_inj hleads.ordinary hother.ordinary hleads.ne_nil hother.ne_nil heq]
      · exact fun hother => ⟨names, hother, rfl⟩
  · exact hnone fun names hleads => houtside ⟨_, hleads.components_eq.symm⟩
  · refine hnone fun names hleads => hleads.ne_nil ?_
    have hnil := hleads.components_eq
    rw [hroot, List.self_eq_append_right] at hnil
    exact List.map_eq_nil_iff.mp hnil
  · refine hnone fun names hleads => ?_
    have hnames : below = names.map fun name => .name (ofString name) :=
      List.append_cancel_left (hbelow.symm.trans hleads.components_eq)
    rw [hnames] at hup
    obtain ⟨_, -, hup⟩ := List.mem_map.mp hup
    exact absurd hup (by simp)

example : (ofString "/ws").fileName? (ofString "/ws2/a.go") = none := by decide

example : (ofString "/ws/./").fileName? (ofString "//ws/pkg/.//a.go") = some "/pkg/a.go" := by decide

end SsaLens.Path
