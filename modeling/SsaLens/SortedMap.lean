/-! # Finite maps in key order

A map is the list of its entries with strictly ascending keys. Enumeration is always in
key order, and maps with the same look-ups are equal.
-/

namespace SsaLens

universe u v

/-- A finite map, kept as its entries in strictly ascending key order. -/
structure SortedMap (κ : Type u) (α : Type v) [LT κ] where
  entries : List (κ × α)
  ascending : entries.Pairwise (fun first second => first.1 < second.1)
  deriving DecidableEq

namespace SortedMap

variable {κ : Type u} {α : Type v}

/-- The value at a key of an entry list. -/
def find? [DecidableEq κ] (key : κ) : List (κ × α) → Option α
  | [] => none
  | (other, value) :: rest => if other = key then some value else find? key rest

/-- Insertion into an ascending entry list, replacing the entry of the same key. -/
def place [LT κ] [DecidableLT κ] [DecidableEq κ] (key : κ) (value : α) :
    List (κ × α) → List (κ × α)
  | [] => [(key, value)]
  | (other, held) :: rest =>
      if key < other then (key, value) :: (other, held) :: rest
      else if key = other then (key, value) :: rest
      else (other, held) :: place key value rest

/-- Placing an entry changes what is found under its key only. -/
theorem find?_place [LT κ] [DecidableLT κ] [DecidableEq κ] (key probe : κ) (value : α)
    (entries : List (κ × α)) :
    find? probe (place key value entries) =
      if key = probe then some value else find? probe entries := by
  induction entries with
  | nil => simp [place, find?]
  | cons head rest ih =>
      obtain ⟨other, held⟩ := head
      simp only [place]
      split
      · simp [find?]
      · split
        next heq => subst heq; by_cases h : key = probe <;> simp [find?, h]
        next hne =>
          by_cases h : other = probe
          · subst h; simp [find?, hne]
          · simp [find?, h, ih]

/-- After a placement there is nothing but the placed entry and what was there. -/
theorem mem_place [LT κ] [DecidableLT κ] [DecidableEq κ] {key : κ} {value : α}
    {entry : κ × α} {entries : List (κ × α)} (h : entry ∈ place key value entries) :
    entry = (key, value) ∨ entry ∈ entries := by
  induction entries with
  | nil => simpa [place] using h
  | cons head rest ih =>
      obtain ⟨other, held⟩ := head
      simp only [place] at h
      split at h
      · simpa using h
      · split at h
        · rcases List.mem_cons.mp h with h | h
          · exact Or.inl h
          · exact Or.inr (List.mem_cons_of_mem _ h)
        · rcases List.mem_cons.mp h with h | h
          · exact Or.inr (h ▸ List.mem_cons_self)
          · exact (ih h).imp_right (List.mem_cons_of_mem _)

section Order

variable [LT κ] [LE κ] [Std.IsLinearOrder κ] [Std.LawfulOrderLT κ] [DecidableLT κ] [DecidableEq κ]

/-- The keys stay ascending when an entry is placed among them. -/
theorem place_ascending {key : κ} {value : α} {entries : List (κ × α)}
    (h : entries.Pairwise (fun first second => first.1 < second.1)) :
    (place key value entries).Pairwise (fun first second => first.1 < second.1) := by
  induction entries with
  | nil => simp [place]
  | cons head rest ih =>
      obtain ⟨other, held⟩ := head
      obtain ⟨hhead, hrest⟩ := List.pairwise_cons.mp h
      simp only [place]
      split
      next hlt =>
        refine List.pairwise_cons.mpr ⟨fun entry hentry => ?_, h⟩
        rcases List.mem_cons.mp hentry with rfl | hentry
        · exact hlt
        · exact Std.lt_trans hlt (hhead entry hentry)
      next hnot =>
        split
        next heq =>
          subst heq
          exact List.pairwise_cons.mpr ⟨hhead, hrest⟩
        next hne =>
          refine List.pairwise_cons.mpr ⟨fun entry hentry => ?_, ih hrest⟩
          rcases mem_place hentry with rfl | hentry
          · rcases Std.lt_trichotomy key other with hlt | heq | hlt
            · exact absurd hlt hnot
            · exact absurd heq hne
            · exact hlt
          · exact hhead entry hentry

end Order

section Operations

variable [LT κ]

def empty : SortedMap κ α := ⟨[], List.Pairwise.nil⟩

instance : EmptyCollection (SortedMap κ α) := ⟨empty⟩

instance : Inhabited (SortedMap κ α) := ⟨empty⟩

def size (map : SortedMap κ α) : Nat := map.entries.length

def isEmpty (map : SortedMap κ α) : Bool := map.entries.isEmpty

def keys (map : SortedMap κ α) : List κ := map.entries.map (·.1)

def get? [DecidableEq κ] (map : SortedMap κ α) (key : κ) : Option α := find? key map.entries

def contains [DecidableEq κ] (map : SortedMap κ α) (key : κ) : Bool := (map.get? key).isSome

def erase [DecidableEq κ] (map : SortedMap κ α) (key : κ) : SortedMap κ α :=
  ⟨map.entries.filter (·.1 ≠ key), map.ascending.filter _⟩

/-- Apply a function to every value, leaving the keys. -/
def mapValues {β : Type v} (f : κ → α → β) (map : SortedMap κ α) : SortedMap κ β :=
  ⟨map.entries.map fun entry => (entry.1, f entry.1 entry.2),
    List.pairwise_map.mpr map.ascending⟩

@[simp] theorem get?_empty [DecidableEq κ] (probe : κ) : (∅ : SortedMap κ α).get? probe = none := rfl

/-- What is looked up after an erasure: nothing under the key, and else the old value. -/
@[simp] theorem get?_erase [DecidableEq κ] (map : SortedMap κ α) (key probe : κ) :
    (map.erase key).get? probe = if key = probe then none else map.get? probe := by
  simp only [get?, erase]
  induction map.entries with
  | nil => simp [find?]
  | cons head rest ih =>
      obtain ⟨other, held⟩ := head
      by_cases hkey : other = key
      · subst hkey
        simp only [ne_eq, not_true_eq_false, decide_false, Bool.false_eq_true,
          not_false_eq_true, List.filter_cons_of_neg, ih, find?]
        split <;> rfl
      · rw [List.filter_cons_of_pos (by simpa using hkey)]
        simp only [find?, ih]
        by_cases hprobe : other = probe
        · subst hprobe; simp [Ne.symm hkey]
        · simp [hprobe]

variable [LE κ] [Std.IsLinearOrder κ] [Std.LawfulOrderLT κ] [DecidableLT κ] [DecidableEq κ]

/-- Set the value of a key, replacing an earlier one. -/
def insert (map : SortedMap κ α) (key : κ) (value : α) : SortedMap κ α :=
  ⟨place key value map.entries, place_ascending map.ascending⟩

/-- Insert entries from the left: of two with the same key the later one stays. -/
def insertAll (map : SortedMap κ α) (entries : List (κ × α)) : SortedMap κ α :=
  entries.foldl (fun map entry => map.insert entry.1 entry.2) map

def ofEntries (entries : List (κ × α)) : SortedMap κ α := insertAll ∅ entries

/-- What is looked up after an insertion: the new value under its key, and else the old one. -/
@[simp] theorem get?_insert (map : SortedMap κ α) (key probe : κ) (value : α) :
    (map.insert key value).get? probe = if key = probe then some value else map.get? probe :=
  find?_place key probe value map.entries

end Operations

end SortedMap

end SsaLens
