import Mathlib.Data.List.Induction
import SsaLens.SortedMap

/-! # Look-ups and entries of a map

The entries of a map are its look-ups, so maps with the same look-ups are equal. The keys are
listed in order, each once. A map that is made of entries keeps the last one of each key.
-/

namespace SsaLens.SortedMap

universe u v

variable {κ : Type u} {α : Type v} [LT κ]

theorem ext_entries {first second : SortedMap κ α} (h : first.entries = second.entries) :
    first = second := by
  cases first
  cases second
  simpa using h

theorem entries_eq_nil_iff {map : SortedMap κ α} : map.entries = [] ↔ map = ∅ := by
  constructor
  · intro hentries
    exact ext_entries hentries
  · rintro rfl
    rfl

section Entries

variable [LE κ] [Std.LawfulOrderLT κ]

theorem nodup_entries (map : SortedMap κ α) : map.entries.Nodup := by
  apply map.ascending.imp
  intro first second hlt heq
  subst heq
  exact Std.lt_irrefl hlt

end Entries

theorem keys_ascending (map : SortedMap κ α) : map.keys.Pairwise (· < ·) :=
  List.pairwise_map.mpr map.ascending

variable [DecidableEq κ]

theorem get?_mapValues {β : Type v} (f : κ → α → β) (map : SortedMap κ α) (probe : κ) :
    (map.mapValues f).get? probe = (map.get? probe).map (f probe) := by
  simp only [get?, mapValues]
  induction map.entries with
  | nil => rfl
  | cons head rest ih =>
      simp only [List.map_cons, find?]
      split
      next heq => rw [Option.map_some, heq]
      next hne => exact ih

variable [LE κ] [Std.LawfulOrderLT κ]

theorem find?_eq_some_iff {entries : List (κ × α)}
    (h : entries.Pairwise fun first second => first.1 < second.1) {key : κ} {value : α} :
    find? key entries = some value ↔ (key, value) ∈ entries := by
  induction entries with
  | nil => simp [find?]
  | cons head rest ih =>
      obtain ⟨other, held⟩ := head
      obtain ⟨hhead, hrest⟩ := List.pairwise_cons.mp h
      rw [find?, List.mem_cons, Prod.mk.injEq]
      split
      next heq =>
        subst heq
        have hfresh : (other, value) ∉ rest := fun hmem => Std.lt_irrefl (hhead (other, value) hmem)
        simp [hfresh, eq_comm]
      next hne => simp [ih hrest, Ne.symm hne]

/-- A value is looked up exactly if it is an entry. -/
theorem get?_eq_some_iff {map : SortedMap κ α} {key : κ} {value : α} :
    map.get? key = some value ↔ (key, value) ∈ map.entries :=
  find?_eq_some_iff map.ascending

theorem mem_keys_iff {map : SortedMap κ α} {key : κ} : key ∈ map.keys ↔ map.contains key = true := by
  rw [keys, contains, List.mem_map, Option.isSome_iff_exists]
  constructor
  · rintro ⟨⟨_, value⟩, hentry, rfl⟩
    exact ⟨value, get?_eq_some_iff.mpr hentry⟩
  · rintro ⟨value, hvalue⟩
    exact ⟨(key, value), get?_eq_some_iff.mp hvalue, rfl⟩

/-- Two maps are the same if every look-up is. -/
theorem ext_get? [Std.IsLinearOrder κ] {first second : SortedMap κ α}
    (h : ∀ key, first.get? key = second.get? key) : first = second := by
  have hmem : ∀ entry, entry ∈ first.entries ↔ entry ∈ second.entries := fun (key, value) => by
    rw [← get?_eq_some_iff, ← get?_eq_some_iff, h key]
  have hperm : first.entries.Perm second.entries :=
    (List.perm_ext_iff_of_nodup first.nodup_entries second.nodup_entries).mpr hmem
  -- the order leaves only one way to list them
  exact ext_entries
    (hperm.eq_of_pairwise (fun _ _ _ _ hlt hgt => absurd (Std.lt_trans hlt hgt) Std.lt_irrefl)
      first.ascending second.ascending)

section Insertion

variable [Std.IsLinearOrder κ] [DecidableLT κ]

theorem eq_or_mem_of_mem_entries_insert {map : SortedMap κ α} {key : κ} {value : α} {entry : κ × α}
    (h : entry ∈ (map.insert key value).entries) : entry = (key, value) ∨ entry ∈ map.entries :=
  mem_place h

theorem insertAll_concat (map : SortedMap κ α) (entries : List (κ × α)) (entry : κ × α) :
    map.insertAll (entries ++ [entry]) = (map.insertAll entries).insert entry.1 entry.2 := by
  rw [insertAll, List.foldl_append]
  rfl

/-- Of the entries with a key the last one is kept. -/
theorem get?_ofEntries (entries : List (κ × α)) (key : κ) :
    (ofEntries entries).get? key = (entries.reverse.find? (·.1 = key)).map (·.2) := by
  induction entries using List.reverseRecOn with
  | nil => rfl
  | append_singleton entries entry ih =>
      rw [ofEntries, insertAll_concat, get?_insert, List.reverse_append, List.reverse_singleton,
        List.singleton_append, List.find?_cons]
      by_cases heq : entry.1 = key
      · simp [heq]
      · rw [ofEntries] at ih
        simpa [heq] using ih

theorem mem_of_mem_entries_ofEntries {entries : List (κ × α)} {entry : κ × α}
    (h : entry ∈ (ofEntries entries).entries) : entry ∈ entries := by
  rw [← get?_eq_some_iff, get?_ofEntries, Option.map_eq_some_iff] at h
  obtain ⟨found, hfound, hvalue⟩ := h
  have hkey : found.1 = entry.1 := by simpa using List.find?_some hfound
  have hentry : found = entry := Prod.ext hkey hvalue
  exact hentry ▸ List.mem_reverse.mp (List.mem_of_find?_eq_some hfound)

theorem place_of_forall_lt {key : κ} {value : α} {entries : List (κ × α)}
    (h : ∀ entry ∈ entries, entry.1 < key) : place key value entries = entries ++ [(key, value)] := by
  induction entries with
  | nil => rfl
  | cons head rest ih =>
      obtain ⟨other, held⟩ := head
      obtain ⟨hother, hrest⟩ := List.forall_mem_cons.mp h
      have hlt : ¬ key < other := fun hlt => Std.lt_irrefl (Std.lt_trans hlt hother)
      have hne : ¬ key = other := fun heq => Std.lt_irrefl (heq ▸ hother)
      rw [place, if_neg hlt, if_neg hne, ih hrest, List.cons_append]

/-- Entries in ascending order are kept as they are. -/
theorem entries_ofEntries {entries : List (κ × α)}
    (h : entries.Pairwise fun first second => first.1 < second.1) :
    (ofEntries entries).entries = entries := by
  induction entries using List.reverseRecOn with
  | nil => rfl
  | append_singleton entries entry ih =>
      obtain ⟨hentries, -, hlast⟩ := List.pairwise_append.mp h
      have hbelow : ∀ other ∈ entries, other.1 < entry.1 := fun other hother =>
        hlast other hother entry (List.mem_singleton_self entry)
      rw [ofEntries] at ih ⊢
      rw [insertAll_concat, insert]
      simp only [ih hentries]
      exact place_of_forall_lt hbelow

/-- A map is made of its own entries. -/
theorem ofEntries_entries (map : SortedMap κ α) : ofEntries map.entries = map :=
  ext_entries (entries_ofEntries map.ascending)

end Insertion

end SsaLens.SortedMap
