import SsaLens.Json.Decode

/-! # Reading back written values

A line number, a list of texts and an optional value are read as they were written, and a record is
read by its tag. What is written is legible.
-/

namespace SsaLens.Json

/-- A line number is read back from its value. -/
@[simp] theorem asLine?_ofLine (line : UInt32) : (ofLine line).asLine? = some line := by
  have hbound : (line.toNat : Int) ≤ 4294967295 := by
    have := line.toNat_lt
    omega
  simp [ofLine, asLine?, asInt?, hbound]

@[simp] theorem isLegible_ofLine (line : UInt32) : (ofLine line).isLegible = true := by
  simp [ofLine, isLegible]

/-- A list is read back if each of its items is. -/
theorem mapM_map_eq_some {α β : Type} {encode : α → β} {decode : β → Option α} {items : List α}
    (h : ∀ item ∈ items, decode (encode item) = some item) :
    (items.map encode).mapM decode = some items := by
  induction items with
  | nil => rfl
  | cons item rest ih =>
      obtain ⟨hitem, hrest⟩ := List.forall_mem_cons.mp h
      rw [List.map_cons, List.mapM_cons, hitem, ih hrest]
      rfl

@[simp] theorem asList?_ofStrings (texts : List String) :
    (ofStrings texts).asList? asString? = some texts :=
  mapM_map_eq_some fun _ _ => rfl

/-- A list of legible values is legible. -/
theorem areLegible_map {α : Type} {encode : α → Json} (h : ∀ item, (encode item).isLegible = true)
    (items : List α) : areLegible (items.map encode) = true := by
  induction items with
  | nil => simp [areLegible]
  | cons item rest ih => simp [areLegible, h item, ih]

@[simp] theorem isLegible_ofStrings (texts : List String) : (ofStrings texts).isLegible = true := by
  rw [ofStrings, isLegible]
  exact areLegible_map (fun text => by simp [isLegible]) texts

/-- An object of legible values is legible. -/
theorem fieldsAreLegible_map {α : Type} {name : α → String} {encode : α → Json}
    (h : ∀ item, (encode item).isLegible = true) (items : List α) :
    fieldsAreLegible (items.map fun item => (name item, encode item)) = true := by
  induction items with
  | nil => simp [fieldsAreLegible]
  | cons item rest ih => simp [fieldsAreLegible, h item, ih]

@[simp] theorem optional?_ofLine (line : Option UInt32) :
    optional? asLine? (some (ofOption ofLine line)) = some line := by
  cases line with
  | none => rfl
  | some line =>
      change (ofLine line).asLine?.map some = some (some line)
      rw [asLine?_ofLine, Option.map_some]

@[simp] theorem isLegible_ofOption_ofLine (line : Option UInt32) :
    (ofOption ofLine line).isLegible = true := by
  cases line <;> simp [ofOption, isLegible]

/-- A record that is written with its tag in front is read by it. -/
theorem tagged?_cons {tag name : String} {fields : List (String × Json)}
    (hlegible : fieldsAreLegible fields = true) (hnames : ∀ field ∈ fields, field.1 ≠ tag) :
    (obj ((tag, str name) :: fields)).tagged? tag = some (name, obj fields) := by
  have hother : fields.filter (·.1 == tag) = [] :=
    List.filter_eq_nil_iff.mpr fun field hfield => by simpa using hnames field hfield
  have hrest : fields.filter (·.1 != tag) = fields :=
    List.filter_eq_self.mpr fun field hfield => by simpa using hnames field hfield
  simp [tagged?, isLegible, fieldsAreLegible, hlegible, single?, hother, hrest, asString?]

end SsaLens.Json
