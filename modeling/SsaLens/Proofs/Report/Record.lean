import SsaLens.Proofs.Json.Decode
import SsaLens.Proofs.SortedMap
import SsaLens.Report.Record

/-! # Reading back reports

A verdict and a report are read from their records as they were written. Inside a tagged record only
the empty report is.
-/

namespace SsaLens

open Json

theorem Verdict.isLegible_toJson (verdict : Verdict) : verdict.toJson.isLegible = true := by
  cases verdict with
  | canInline name cost shape => simp [toJson, isLegible, fieldsAreLegible]
  | inlinedCall name => simp [toJson, isLegible, fieldsAreLegible]
  | cannotInline name reason cost => cases cost <;> simp [toJson, isLegible, fieldsAreLegible]

/-- A verdict is read back from its record. -/
theorem Verdict.ofJson?_toJson (verdict : Verdict) : ofJson? verdict.toJson = some verdict := by
  cases verdict with
  | canInline name cost shape =>
      simp [toJson, ofJson?, fields?, objectFields?, single?, default?, optional?,
        asOption?, asString?, asBool?, ofFields]
  | inlinedCall name =>
      simp [toJson, ofJson?, fields?, objectFields?, single?, default?, optional?,
        asOption?, asString?, asBool?, ofFields]
  | cannotInline name reason cost =>
      cases cost <;>
      simp [toJson, ofJson?, fields?, objectFields?, single?, default?, optional?,
        asOption?, asString?, asBool?, ofFields]

namespace Report

theorem isLegible_toJson (report : Report) : report.toJson.isLegible = true := by
  rw [toJson, isLegible]
  exact fieldsAreLegible_map (fun entry => entry.2.isLegible_toJson) report.entries

/-- A report is read back from its record. -/
theorem ofJson?_toJson (report : Report) : ofJson? report.toJson = some report := by
  have hentries : (report.entries.map fun entry =>
      (Text.decimal entry.1.toNat, entry.2.toJson)).mapM (fun field => do
        pure ((← lineKey? field.1), (← Verdict.ofJson? field.2))) = some report.entries :=
    mapM_map_eq_some fun entry _ => by simp [Verdict.ofJson?_toJson]
  rw [toJson, ofJson?, hentries]
  exact congrArg some report.ofEntries_entries

/-- Inside a tagged record a line number is a plain text. -/
theorem ofTaggedJson?_toJson (report : Report) :
    ofTaggedJson? report.toJson = if report = ∅ then some report else none := by
  by_cases hempty : report = ∅
  · subst hempty
    rfl
  · have hentries : report.entries ≠ [] := mt SortedMap.entries_eq_nil_iff.mp hempty
    rw [if_neg hempty, toJson]
    cases hfields : report.entries with
    | nil => exact absurd hfields hentries
    | cons entry rest => rfl

end Report

end SsaLens
