import SsaLens.Dump.Record
import SsaLens.Proofs.Report.Record
import SsaLens.Proofs.Verdict.Canonical
import SsaLens.Row.Record

/-! # Stored records

Verdicts, reports, rows and dumps are read from their records as they were written. The other way
round, what is read is written as a canonical record, and so a record comes back exactly if it was
canonical.
-/

namespace SsaLens

open Json

namespace Row

/-- The position of a row in its dump fits in 64 bits. -/
def Addressable : Row → Prop
  | ssa index _ _ => index < Nat.pow 2 64
  | verdict .. => True

theorem asNat?_ofNat {index : Nat} (h : index < Nat.pow 2 64) : (ofNat index).asNat? = some index := by
  have hpow : Nat.pow 2 64 = 18446744073709551616 := rfl
  have hbound : (index : Int) ≤ 18446744073709551615 := by omega
  simp [ofNat, asNat?, asInt?, hbound]

/-- A row is read back from its record, if its index fits a machine word. -/
theorem ofJson?_toJson {row : Row} (h : row.Addressable) : ofJson? row.toJson = some row := by
  cases row with
  | verdict line text =>
      have htag : (verdict line text).toJson.tagged? "kind" =
          some ("decision", obj [("sourceLine", ofLine line), ("text", str text)]) :=
        tagged?_cons (by simp [fieldsAreLegible, isLegible]) (by simp)
      simp [ofJson?, htag, fields?, objectFields?, single?, asString?]
  | ssa index line text =>
      have htag : (ssa index line text).toJson.tagged? "kind" =
          some ("ssa", obj [("index", ofNat index), ("sourceLine", ofOption ofLine line),
            ("text", str text)]) :=
        tagged?_cons (by simp [fieldsAreLegible, isLegible, ofNat]) (by simp)
      simp [ofJson?, htag, fields?, objectFields?, single?, asString?, asNat?_ofNat h]

end Row

/-- A dump is read back from its record. -/
theorem Dump.ofJson?_toJson (dump : Dump) : ofJson? dump.toJson = some dump := by
  simp [ofJson?, toJson, fields?, objectFields?, single?, asString?]

/-- The fields of a report are named by its line numbers in decimal, and are read as these numbers. -/
theorem Report.names_toJson (report : Report) :
    ∃ fields, report.toJson = obj fields ∧
      fields.map (·.1) = report.keys.map (fun line => Text.decimal line.toNat) ∧
        fields.map (fun field => lineKey? field.1) = report.keys.map some := by
  refine ⟨_, rfl, ?_, ?_⟩
  · rw [SortedMap.keys, List.map_map, List.map_map]
    rfl
  · rw [SortedMap.keys, List.map_map, List.map_map]
    apply List.map_congr_left
    intro entry _
    exact lineKey?_decimal entry.1

/-- Every stored value is read back. Whatever record a verdict is read from, it is written as a
canonical one, which is the same as before exactly if that was canonical. -/
theorem records_read_back :
    (∀ verdict : Verdict, Verdict.ofJson? verdict.toJson = some verdict) ∧
      (∀ report : Report, Report.ofJson? report.toJson = some report ∧
        ∃ fields, report.toJson = obj fields ∧
          fields.map (·.1) = report.keys.map (fun line => Text.decimal line.toNat) ∧
            fields.map (fun field => lineKey? field.1) = report.keys.map some) ∧
      (∀ row : Row, row.Addressable → Row.ofJson? row.toJson = some row) ∧
      (∀ dump : Dump, Dump.ofJson? dump.toJson = some dump) ∧
      ∀ json verdict, Verdict.ofJson? json = some verdict →
        (∃ fields, verdict.toJson = obj fields ∧ Verdict.Canonical fields) ∧
          (SameObject verdict.toJson json ↔
            ∃ fields, json = obj fields ∧ Verdict.Canonical fields) := by
  refine ⟨Verdict.ofJson?_toJson, ?_, fun _ => Row.ofJson?_toJson, Dump.ofJson?_toJson, ?_⟩
  · intro report
    exact ⟨report.ofJson?_toJson, report.names_toJson⟩
  · intro json verdict h
    exact ⟨verdict.exists_canonical_toJson, Verdict.sameObject_toJson_iff h⟩

/-- A record with both flags, a null cost, a needless reason, another budget and an unknown field. -/
def looseRecord : Json :=
  obj [("isInlined", bool true), ("name", str "f"), ("canInline", bool true), ("cost", null),
    ("reason", str "r"), ("maxBudget", int 90), ("since", int 1)]

/-- The record of a refused function, with its fields in another order. -/
def turnedRecord : Json :=
  obj [("maxBudget", int 80), ("reason", str "r"), ("name", str "f"), ("isInlined", bool false),
    ("canInline", bool false)]

theorem records_read_back_loose :
    Row.Addressable (.ssa 7 none "b1:") ∧
      Row.ofJson? (Row.ssa 7 none "b1:").toJson = some (.ssa 7 none "b1:") ∧
      Verdict.ofJson? looseRecord = some (.canInline "f" "" "") ∧
      ¬ SameObject (Verdict.canInline "f" "" "").toJson looseRecord ∧
      Verdict.ofJson? turnedRecord = some (.cannotInline "f" "r" none) ∧
      SameObject (Verdict.cannotInline "f" "r" none).toJson turnedRecord := by
  obtain ⟨-, -, hrow, -, hrecord⟩ := records_read_back
  have haddressable : Row.Addressable (.ssa 7 none "b1:") := by
    change 7 < Nat.pow 2 64
    decide
  have hloose : Verdict.ofJson? looseRecord = some (.canInline "f" "" "") := by decide
  have hturned : Verdict.ofJson? turnedRecord = some (.cannotInline "f" "r" none) := by decide
  refine ⟨haddressable, hrow _ haddressable, hloose, ?_, hturned, ?_⟩
  · rw [(hrecord _ _ hloose).2]
    rintro ⟨fields, hfields, hcanonical⟩
    obtain rfl := obj.inj hfields
    exact hcanonical.one_flag (by simp) (by simp)
  · rw [(hrecord _ _ hturned).2]
    refine ⟨_, rfl, ?_⟩
    constructor <;> simp [Verdict.fieldNames]

end SsaLens
