import SsaLens.Proofs.Diagnostic.Classification
import SsaLens.Proofs.Dump.FileName
import SsaLens.Proofs.SortedMap
import SsaLens.Report

/-! # The parts of a diagnostic

The texts of a verdict are cut out of the line that it was read from. A line holds no newline, so
neither do they, and the wording of a verdict is one line of text again.
-/

namespace SsaLens

open Text

/-- The texts that a verdict is made of. -/
def Verdict.texts : Verdict → List String
  | .canInline name cost shape => [name, cost, shape]
  | .cannotInline name reason cost => name :: reason :: cost.toList
  | .inlinedCall name => [name]

theorem Text.notMem_append {c : Char} {first second : String} (hfirst : c ∉ first.toList)
    (hsecond : c ∉ second.toList) : c ∉ (first ++ second).toList := by
  rw [String.toList_append, List.mem_append, not_or]
  exact ⟨hfirst, hsecond⟩

/-- A verdict whose parts hold no newline is described in one line. -/
theorem Verdict.newline_notMem_describe {verdict : Verdict}
    (h : ∀ text ∈ verdict.texts, '\n' ∉ text.toList) : '\n' ∉ verdict.describe.toList := by
  cases verdict with
  | canInline name cost shape =>
      obtain ⟨hname, hrest⟩ := List.forall_mem_cons.mp h
      obtain ⟨hcost, -⟩ := List.forall_mem_cons.mp hrest
      exact notMem_append (notMem_append (notMem_append (by decide) hname) (by decide)) hcost
  | inlinedCall name =>
      exact notMem_append (by decide) (h name (List.mem_singleton_self name))
  | cannotInline name reason cost =>
      obtain ⟨hname, hrest⟩ := List.forall_mem_cons.mp h
      obtain ⟨hreason, hcost⟩ := List.forall_mem_cons.mp hrest
      have hsubject : '\n' ∉ ("cannot inline " ++ name).toList := notMem_append (by decide) hname
      cases cost with
      | none => exact notMem_append (notMem_append hsubject (by decide)) hreason
      | some cost =>
          have hquoted := hcost cost (List.mem_singleton_self cost)
          exact notMem_append (notMem_append (notMem_append hsubject (by decide)) hquoted) (by decide)

namespace Diagnostic

variable {message : List Char} {verdict : Verdict}

/-- The texts of a verdict have only characters of a text. -/
def CutFrom (text : List Char) (verdict : Verdict) : Prop :=
  ∀ part ∈ verdict.texts, part.toList ⊆ text

/-- The parts of a verdict of the first form are cut from its message. -/
theorem cutFrom_inlinable? (h : inlinable? message = some verdict) : CutFrom message verdict := by
  obtain ⟨inlinable⟩ := nonempty_inlinable h
  obtain rfl := Option.some.inj ((inlinable?_eq_some inlinable).symm.trans h)
  intro part hpart c hc
  rw [inlinable.message_eq]
  simp only [Verdict.texts, List.mem_cons, List.not_mem_nil, or_false] at hpart
  rcases hpart with rfl | rfl | rfl <;> rw [String.toList_ofList] at hc <;> simp [hc]

/-- A quoted cost is made of characters of the reason. -/
theorem quotedCost?_subset {reason digits : List Char} (h : quotedCost? reason = some digits) :
    digits ⊆ reason := by
  have hcost := quotedCost_quotedCost? reason
  rw [h] at hcost
  cases hcost with
  | mentioned mention _ =>
      intro c hc
      rw [mention.reason_eq]
      simp [hc]

/-- The parts of a verdict of the second form are cut from its message. -/
theorem cutFrom_refused? (h : refused? message = some verdict) : CutFrom message verdict := by
  obtain ⟨refused, hgreedy⟩ := Refused.exists_greedy (nonempty_refused h)
  obtain rfl := Option.some.inj ((refused?_eq_some refused hgreedy).symm.trans h)
  have hspoken : refused.reason.rdropWhile isBlank ⊆ refused.reason :=
    (List.rdropWhile_prefix isBlank _).subset
  have hreason : refused.reason ⊆ message := by
    intro c hc
    rw [refused.message_eq]
    simp [hc]
  intro part hpart
  simp only [Verdict.texts, List.mem_cons, Option.mem_toList, Option.map_eq_some_iff] at hpart
  rcases hpart with rfl | rfl | ⟨digits, hdigits, rfl⟩
  · intro c hc
    rw [String.toList_ofList] at hc
    rw [refused.message_eq]
    simp [hc]
  · rw [String.toList_ofList]
    exact List.Subset.trans hspoken hreason
  · rw [String.toList_ofList]
    exact List.Subset.trans (quotedCost?_subset hdigits) (List.Subset.trans hspoken hreason)

/-- The parts of a verdict of the third form are cut from its message. -/
theorem cutFrom_inlinedCall? (h : inlinedCall? message = some verdict) :
    CutFrom message verdict := by
  obtain ⟨call⟩ := nonempty_inlinedCall h
  obtain rfl := Option.some.inj ((inlinedCall?_eq_some call).symm.trans h)
  intro part hpart c hc
  obtain rfl := List.mem_singleton.mp hpart
  rw [String.toList_ofList] at hc
  rw [call.message_eq]
  simp [hc]

/-- What is located in a text is read from its end. -/
theorem exists_message_of_located? {form : List Char → Option Verdict} {text line : List Char}
    (h : located? form text = some (line, verdict)) :
    ∃ message, message <:+ text ∧ form message = some verdict := by
  obtain ⟨file, rest, rfl, -, -, hplaced⟩ := exists_file_of_located? h
  obtain ⟨column, message, rfl, -, -, hform⟩ := placed?_eq_some_iff.mp hplaced
  refine ⟨message, ?_, hform⟩
  refine ⟨file ++ ':' :: (line ++ ':' :: (column ++ [':'])), ?_⟩
  simp

/-- The parts of a verdict are cut from the line that it was read from. -/
theorem cutFrom_classify {line : String} {number : UInt32}
    (h : classify line = some (number, verdict)) : CutFrom line.toList verdict := by
  simp only [classify, Option.bind_eq_bind, Option.bind_eq_some_iff] at h
  obtain ⟨⟨digits, found⟩, hfound, read, -, hpair⟩ := h
  obtain ⟨-, rfl⟩ := Prod.mk.inj (Option.some.inj hpair)
  have hparts : ∀ {form : List Char → Option Verdict}, located? form line.toList = some (digits, found) →
      (∀ {message}, form message = some found → CutFrom message found) →
        CutFrom line.toList found := by
    intro form hlocated hform part hpart
    obtain ⟨message, hsuffix, hmessage⟩ := exists_message_of_located? hlocated
    exact List.Subset.trans (hform hmessage part hpart) hsuffix.subset
  simp only [Option.orElse_eq_orElse, Option.orElse_eq_or, Option.or_eq_some_iff] at hfound
  rcases hfound with hinlinable | ⟨-, hrefused | ⟨-, hcall⟩⟩
  · exact hparts hinlinable cutFrom_inlinable?
  · exact hparts hrefused cutFrom_refused?
  · exact hparts hcall cutFrom_inlinedCall?

end Diagnostic

/-- A line holds no newline. -/
theorem Text.newline_notMem_of_mem_lines {text line : List Char} (h : line ∈ lines text) :
    '\n' ∉ line := by
  intro hmem
  rcases List.mem_append.mp h with h | h
  · obtain ⟨piece, hpiece, rfl⟩ := List.mem_map.mp h
    exact newline_notMem_of_mem_pieces (List.dropLast_subset _ hpiece)
      ((dropReturn_sublist piece).subset hmem)
  · have hlast := Option.mem_toList.mp (List.mem_of_mem_filter h)
    exact newline_notMem_of_mem_pieces (List.mem_of_getLast? hlast) hmem

/-- Every verdict of a report is worded in one line. -/
theorem Report.newline_notMem_describe {text : String} {entry : UInt32 × Verdict}
    (h : entry ∈ (parse text).entries) : '\n' ∉ entry.2.describe.toList := by
  have hdiagnostic : entry ∈ diagnostics text := SortedMap.mem_of_mem_entries_ofEntries h
  obtain ⟨line, hline, hclassify⟩ := List.mem_filterMap.mp hdiagnostic
  apply Verdict.newline_notMem_describe
  intro part hpart hmem
  have hcut := Diagnostic.cutFrom_classify hclassify part hpart hmem
  rw [String.toList_ofList] at hcut
  exact newline_notMem_of_mem_lines hline hcut

end SsaLens
