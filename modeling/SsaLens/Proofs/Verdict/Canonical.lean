import Mathlib.Data.List.Nodup
import Mathlib.Data.List.Perm.Lattice
import SsaLens.Verdict.Record

/-! # Canonical verdict records

Many records are read as the same verdict: flags may both be set, fields may be missing, null, unknown
or needless, and the budget may be any. One of them is written, up to the order of its fields. This
module says which records are canonical without writing them, and proves that a record that is read is
written again as it was exactly if it is canonical.
-/

namespace SsaLens

namespace Json

variable {fields first second : List (String × Json)} {name : String} {value : Json}

/-- The same object: its fields may be in another order. -/
def SameObject (one other : Json) : Prop :=
  ∃ first second, one = obj first ∧ other = obj second ∧ first.Perm second

theorem single?_eq_some_none_iff : single? fields name = some none ↔ name ∉ fields.map (·.1) := by
  have hfilter : fields.filter (·.1 == name) = [] ↔ name ∉ fields.map (·.1) := by
    rw [List.filter_eq_nil_iff, List.mem_map]
    constructor
    · rintro h ⟨field, hfield, rfl⟩
      exact h field hfield (beq_self_eq_true field.1)
    · intro h field hfield heq
      exact h ⟨field, hfield, by simpa using heq⟩
  rw [← hfilter, single?]
  generalize fields.filter (·.1 == name) = found
  rcases found with _ | ⟨field, _ | ⟨other, rest⟩⟩
  · exact iff_of_true rfl rfl
  · exact iff_of_false nofun nofun
  · exact iff_of_false nofun nofun

theorem mem_of_single? (h : single? fields name = some (some value)) : (name, value) ∈ fields := by
  unfold single? at h
  split at h
  next => exact absurd h (by simp)
  next other found hfilter =>
    obtain rfl := Option.some.inj (Option.some.inj h)
    have hmem : (other, found) ∈ fields.filter (·.1 == name) := by
      rw [hfilter]
      exact List.mem_singleton_self _
    obtain ⟨hfield, hname⟩ := List.mem_filter.mp hmem
    obtain rfl : other = name := by simpa using hname
    exact hfield
  next => exact absurd h (by simp)

/-- Where no name is given twice, every field is found. -/
theorem single?_of_mem (h : (fields.map (·.1)).Nodup) (hmem : (name, value) ∈ fields) :
    single? fields name = some (some value) := by
  have hnodup : ((fields.filter (·.1 == name)).map (·.1)).Nodup := h.sublist (List.filter_sublist.map _)
  have hnames : ∀ field ∈ fields.filter (·.1 == name), field.1 = name := fun field hfield => by
    simpa using (List.mem_filter.mp hfield).2
  have hhere : (name, value) ∈ fields.filter (·.1 == name) :=
    List.mem_filter.mpr ⟨hmem, beq_self_eq_true name⟩
  rw [single?]
  generalize fields.filter (·.1 == name) = found at hnodup hnames hhere ⊢
  rcases found with _ | ⟨field, _ | ⟨other, rest⟩⟩
  · exact absurd hhere List.not_mem_nil
  · rw [← List.mem_singleton.mp hhere]
  · have hfield := hnames field List.mem_cons_self
    have hother := hnames other (List.mem_cons_of_mem _ List.mem_cons_self)
    simp [hfield, hother] at hnodup

/-- Fields without a repeated name are the same if every name is looked up alike. -/
theorem perm_of_single? (hfirst : (first.map (·.1)).Nodup) (hsecond : (second.map (·.1)).Nodup)
    (h : ∀ name, single? first name = single? second name) : first.Perm second := by
  apply (List.perm_ext_iff_of_nodup (List.Nodup.of_map _ hfirst) (List.Nodup.of_map _ hsecond)).mpr
  rintro ⟨name, value⟩
  constructor
  · intro hmem
    exact mem_of_single? (h name ▸ single?_of_mem hfirst hmem)
  · intro hmem
    exact mem_of_single? ((h name).symm ▸ single?_of_mem hsecond hmem)

end Json

namespace Verdict

open Json

/-- The names of the fields that a verdict record may have. -/
def fieldNames : List String :=
  ["name", "canInline", "isInlined", "cost", "as", "reason", "maxBudget"]

/-- A canonical record has the fields of its kind, none of them null and no others, and the budget that
costs are measured by. -/
structure Canonical (fields : List (String × Json)) : Prop where
  nodup : (fields.map (·.1)).Nodup
  known : ∀ field ∈ fields, field.1 ∈ fieldNames
  not_null : ∀ field ∈ fields, field.2 ≠ null
  budget : ("maxBudget", int 80) ∈ fields
  one_flag : ("canInline", bool true) ∈ fields → ("isInlined", bool true) ∉ fields
  inlinable : ("canInline", bool true) ∈ fields →
    "cost" ∈ fields.map (·.1) ∧ "as" ∈ fields.map (·.1) ∧ "reason" ∉ fields.map (·.1)
  inlined : ("isInlined", bool true) ∈ fields →
    "cost" ∉ fields.map (·.1) ∧ "as" ∉ fields.map (·.1) ∧ "reason" ∉ fields.map (·.1)
  neither : ("canInline", bool true) ∉ fields → ("isInlined", bool true) ∉ fields →
    "reason" ∈ fields.map (·.1) ∧ "as" ∉ fields.map (·.1)

theorem Canonical.of_perm {fields other : List (String × Json)} (h : Canonical fields)
    (hperm : fields.Perm other) : Canonical other := by
  have hmem : ∀ field, field ∈ other ↔ field ∈ fields := fun field => hperm.mem_iff.symm
  have hnames : ∀ name, name ∈ other.map (·.1) ↔ name ∈ fields.map (·.1) := fun name =>
    (hperm.map (·.1)).mem_iff.symm
  constructor
  case nodup => exact (hperm.map (·.1)).nodup_iff.mp h.nodup
  case known => exact fun field hfield => h.known field ((hmem field).mp hfield)
  case not_null => exact fun field hfield => h.not_null field ((hmem field).mp hfield)
  case budget => exact (hmem _).mpr h.budget
  case one_flag =>
    rw [hmem, hmem]
    exact h.one_flag
  case inlinable =>
    rw [hmem, hnames, hnames, hnames]
    exact h.inlinable
  case inlined =>
    rw [hmem, hnames, hnames, hnames]
    exact h.inlined
  case neither =>
    rw [hmem, hmem, hnames, hnames]
    exact h.neither

/-- What is written is canonical. -/
theorem exists_canonical_toJson (verdict : Verdict) :
    ∃ fields, verdict.toJson = obj fields ∧ Canonical fields := by
  cases verdict with
  | canInline name cost shape =>
      refine ⟨_, rfl, ?_⟩
      constructor <;> simp [fieldNames, ofLine, budget]
  | inlinedCall name =>
      refine ⟨_, rfl, ?_⟩
      constructor <;> simp [fieldNames, ofLine, budget]
  | cannotInline name reason cost =>
      refine ⟨_, rfl, ?_⟩
      cases cost <;> constructor <;> simp [fieldNames, ofLine, budget]

/-- What is read from the fields of a record. A text that may be left out is none if it is missing or
null. -/
structure Reads (fields : List (String × Json)) (name : String) (inlinable inlined : Bool)
    (cost shape reason : Option String) : Prop where
  name : single? fields "name" = some (some (str name))
  inlinable : single? fields "canInline" = some (some (bool inlinable))
  inlined : single? fields "isInlined" = some (some (bool inlined))
  cost : (single? fields "cost").bind (optional? asString?) = some cost
  shape : (single? fields "as").bind (optional? asString?) = some shape
  reason : (single? fields "reason").bind (optional? asString?) = some reason

theorem asString?_eq_some_iff {json : Json} {text : String} :
    json.asString? = some text ↔ json = str text := by
  cases json <;> simp [asString?]

theorem asBool?_eq_some_iff {json : Json} {value : Bool} :
    json.asBool? = some value ↔ json = bool value := by
  cases json <;> simp [asBool?]

theorem exists_reads {fields : List (String × Json)} {verdict : Verdict}
    (h : ofJson? (obj fields) = some verdict) :
    ∃ name inlinable inlined cost shape reason,
      Reads fields name inlinable inlined cost shape reason ∧
        verdict = ofFields name inlinable inlined cost shape reason := by
  simp only [ofJson?, Json.fields?, objectFields?, List.mapM_cons, List.mapM_nil, Option.bind_eq_bind,
    Option.bind_eq_some_iff, Option.pure_def, Option.some.injEq] at h
  obtain ⟨_, ⟨_, hname, _, ⟨_, hinlinable, _, ⟨_, hinlined, _, ⟨cost, hcost, _, ⟨shape, hshape, _,
    ⟨reason, hreason, _, ⟨_, -, _, rfl, rfl⟩, rfl⟩, rfl⟩, rfl⟩, rfl⟩, rfl⟩, rfl⟩, h⟩ := h
  simp only [Option.bind_eq_some_iff, asString?_eq_some_iff, asBool?_eq_some_iff] at h
  obtain ⟨_, -, _, rfl, name, rfl, _, rfl, inlinable, rfl, _, rfl, inlined, rfl, costText, hcostText,
    shapeText, hshapeText, reasonText, hreasonText, h⟩ := h
  refine ⟨name, inlinable, inlined, costText, shapeText, reasonText, ?_, (Option.some.inj h).symm⟩
  constructor
  · exact hname
  · exact hinlinable
  · exact hinlined
  · rw [hcost, Option.bind_some, hcostText]
  · rw [hshape, Option.bind_some, hshapeText]
  · rw [hreason, Option.bind_some, hreasonText]

variable {fields written : List (String × Json)} {name : String} {inlinable inlined : Bool}
  {cost shape reason : Option String}

theorem single?_text_of_not_null {key : String} {text : Option String}
    (hnull : ∀ field ∈ fields, field.2 ≠ null)
    (h : (single? fields key).bind (optional? asString?) = some text) :
    single? fields key = some (text.map str) := by
  obtain ⟨given, hgiven, htext⟩ := Option.bind_eq_some_iff.mp h
  cases given with
  | none =>
      obtain rfl := Option.some.inj htext
      exact hgiven
  | some json =>
      have hjson : json ≠ null := hnull (key, json) (mem_of_single? hgiven)
      cases json with
      | null => exact absurd rfl hjson
      | str given =>
          obtain rfl := Option.some.inj htext
          exact hgiven
      | bool | int | decimal | arr | obj | illegible => exact absurd htext nofun

/-- A text that is found is none exactly if its field is missing. -/
theorem mem_names_iff_isSome {key : String} {text : Option String}
    (h : single? fields key = some (text.map str)) :
    key ∈ fields.map (·.1) ↔ text.isSome = true := by
  rw [← not_iff_not, ← single?_eq_some_none_iff, h]
  cases text <;> simp

/-- Two canonical records that agree in the fields of a verdict have the same fields. -/
theorem perm_of_known (hfields : Canonical fields) (hwritten : Canonical written)
    (h : ∀ key ∈ fieldNames, single? fields key = single? written key) : fields.Perm written := by
  apply perm_of_single? hfields.nodup hwritten.nodup
  intro key
  by_cases hkey : key ∈ fieldNames
  · exact h key hkey
  · -- a name that no verdict record has is in neither of them
    have habsent : ∀ {record : List (String × Json)}, Canonical record → single? record key = some none := by
      intro record hrecord
      rw [single?_eq_some_none_iff, List.mem_map]
      rintro ⟨field, hfield, rfl⟩
      exact hkey (hrecord.known field hfield)
    rw [habsent hfields, habsent hwritten]

theorem mem_flag_iff {key : String} {flag : Bool} (hnodup : (fields.map (·.1)).Nodup)
    (h : single? fields key = some (some (bool flag))) : (key, bool true) ∈ fields ↔ flag = true := by
  constructor
  · intro hmem
    simpa [h] using single?_of_mem hnodup hmem
  · rintro rfl
    exact mem_of_single? h

/-- What is read from a canonical record belongs to one of the three kinds of verdict. -/
theorem kind_of_canonical (h : Reads fields name inlinable inlined cost shape reason)
    (hcanonical : Canonical fields) :
    (inlinable = true ∧ inlined = false ∧ cost.isSome ∧ shape.isSome ∧ reason = none) ∨
      (inlinable = false ∧ inlined = true ∧ cost = none ∧ shape = none ∧ reason = none) ∨
      (inlinable = false ∧ inlined = false ∧ reason.isSome ∧ shape = none) := by
  have htext : ∀ {key : String} {text : Option String},
      (single? fields key).bind (optional? asString?) = some text →
        (key ∈ fields.map (·.1) ↔ text.isSome = true) := fun hkey =>
    mem_names_iff_isSome (single?_text_of_not_null hcanonical.not_null hkey)
  have hinlinable := mem_flag_iff hcanonical.nodup h.inlinable
  have hinlined := mem_flag_iff hcanonical.nodup h.inlined
  have hone := hcanonical.one_flag
  have hkindInlinable := hcanonical.inlinable
  have hkindInlined := hcanonical.inlined
  have hkindNeither := hcanonical.neither
  rw [hinlinable, hinlined] at hone hkindNeither
  rw [hinlinable, htext h.cost, htext h.shape, htext h.reason] at hkindInlinable
  rw [hinlined, htext h.cost, htext h.shape, htext h.reason] at hkindInlined
  rw [htext h.reason, htext h.shape] at hkindNeither
  simp only [Option.not_isSome_iff_eq_none] at hkindInlinable hkindInlined hkindNeither
  simp only [Bool.not_eq_true] at hone hkindNeither
  cases inlinable with
  | true => exact Or.inl ⟨rfl, hone rfl, hkindInlinable rfl⟩
  | false =>
      cases inlined with
      | true => exact Or.inr (Or.inl ⟨rfl, rfl, hkindInlined rfl⟩)
      | false => exact Or.inr (Or.inr ⟨rfl, rfl, hkindNeither rfl rfl⟩)

/-- A canonical record is written as it was read, up to the order of its fields. -/
theorem perm_of_canonical (h : Reads fields name inlinable inlined cost shape reason)
    (hcanonical : Canonical fields)
    (hwritten : (ofFields name inlinable inlined cost shape reason).toJson = obj written) :
    fields.Perm written := by
  have hcanonicalWritten : Canonical written := by
    obtain ⟨other, hother, hcanonicalOther⟩ :=
      exists_canonical_toJson (ofFields name inlinable inlined cost shape reason)
    exact obj.inj (hother.symm.trans hwritten) ▸ hcanonicalOther
  have hcost := single?_text_of_not_null hcanonical.not_null h.cost
  have hshape := single?_text_of_not_null hcanonical.not_null h.shape
  have hreason := single?_text_of_not_null hcanonical.not_null h.reason
  have hbudget := single?_of_mem hcanonical.nodup hcanonical.budget
  apply perm_of_known hcanonical hcanonicalWritten
  simp only [fieldNames, List.forall_mem_cons, h.name, h.inlinable, h.inlined, hcost, hshape, hreason,
    hbudget]
  rcases kind_of_canonical h hcanonical with
    ⟨rfl, rfl, hcost, hshape, rfl⟩ | ⟨rfl, rfl, rfl, rfl, rfl⟩ | ⟨rfl, rfl, hreason, rfl⟩
  · obtain ⟨cost, rfl⟩ := Option.isSome_iff_exists.mp hcost
    obtain ⟨shape, rfl⟩ := Option.isSome_iff_exists.mp hshape
    obtain rfl := obj.inj hwritten
    simp [single?, ofLine, budget]
  · obtain rfl := obj.inj hwritten
    simp [single?, ofLine, budget]
  · obtain ⟨reason, rfl⟩ := Option.isSome_iff_exists.mp hreason
    obtain rfl := obj.inj hwritten
    cases cost <;> simp [single?, ofLine, budget]

/-- A record that is read is written again as it was exactly if it is canonical. -/
theorem sameObject_toJson_iff {json : Json} {verdict : Verdict} (h : ofJson? json = some verdict) :
    SameObject verdict.toJson json ↔ ∃ fields, json = obj fields ∧ Canonical fields := by
  obtain ⟨written, hwritten, hcanonicalWritten⟩ := exists_canonical_toJson verdict
  constructor
  · rintro ⟨first, fields, hfirst, rfl, hperm⟩
    obtain rfl := obj.inj (hwritten.symm.trans hfirst)
    exact ⟨fields, rfl, hcanonicalWritten.of_perm hperm⟩
  · rintro ⟨fields, rfl, hcanonical⟩
    obtain ⟨name, inlinable, inlined, cost, shape, reason, hreads, rfl⟩ := exists_reads h
    exact ⟨written, fields, hwritten, rfl, (perm_of_canonical hreads hcanonical hwritten).symm⟩

end Verdict

end SsaLens
