import Mathlib.Data.List.Basic
import SsaLens.Hint
import SsaLens.Proofs.SortedMap
import SsaLens.Proofs.Text.Break

/-! # The hints that a range shows

A report gives a hint for each verdict on a line that is asked for and there in the document. The hints
come in the order of their lines, each at the end of its line, and what is shown of two ranges that
meet is what is shown of both together.
-/

namespace SsaLens.Hint

open Text

/-- A line number, which counts from one, is asked for and there in the document. -/
def Shown (content : String) (range : LineRange) (number : UInt32) : Prop :=
  1 ≤ number.toNat ∧ range.first.toNat ≤ number.toNat - 1 ∧ number.toNat - 1 ≤ range.last.toNat ∧
    number.toNat - 1 < breaks content.toList + 1

instance (content : String) (range : LineRange) (number : UInt32) :
    Decidable (Shown content range number) :=
  inferInstanceAs (Decidable (_ ∧ _))

/-- The hint of a verdict of a report. -/
def ofVerdict? (content : String) (range : LineRange) (entry : UInt32 × Verdict) : Option Hint :=
  place? (documentLines content.toList) range entry.1 entry.2

theorem ofReport_eq_filterMap (content : String) (report : Report) (range : LineRange) :
    ofReport content report range = report.entries.filterMap (ofVerdict? content range) := rfl

variable {content : String} {range other : LineRange} {entry : UInt32 × Verdict}

theorem toNat_pred {number : UInt32} (h : 1 ≤ number.toNat) :
    (number - 1).toNat = number.toNat - 1 :=
  UInt32.toNat_sub_of_le number 1 (UInt32.le_iff_toNat_le.mpr h)

/-! ## One verdict -/

/-- A verdict on a line that is shown has a hint at the end of that line. -/
theorem exists_ofVerdict?_of_shown (h : Shown content range entry.1) :
    ∃ line, (documentLines content.toList)[entry.1.toNat - 1]? = some line ∧
      ofVerdict? content range entry = some ⟨entry.1 - 1, endColumn line, " " ++ entry.2.describe,
        entry.2.shape?.map ("as: " ++ ·)⟩ := by
  obtain ⟨hpos, hfirst, hlast, hwithin⟩ := h
  rw [← length_documentLines] at hwithin
  have hline := List.getElem?_eq_getElem hwithin
  refine ⟨_, hline, ?_⟩
  have hnumber : entry.1 ≠ 0 := by
    intro hzero
    rw [hzero] at hpos
    exact absurd hpos (by decide)
  have hrange : ¬ (entry.1 - 1 < range.first ∨ range.last < entry.1 - 1) := by
    simp only [UInt32.lt_iff_toNat_lt, toNat_pred hpos]
    omega
  rw [ofVerdict?, place?, if_neg hnumber]
  simp only [if_neg hrange, toNat_pred hpos, hline, Option.map_some]

/-- A verdict on a line that is not shown has no hint. -/
theorem ofVerdict?_of_not_shown (h : ¬ Shown content range entry.1) :
    ofVerdict? content range entry = none := by
  rw [ofVerdict?, place?]
  split
  · rfl
  next hnumber =>
    have hpos : 1 ≤ entry.1.toNat := by
      rw [Nat.one_le_iff_ne_zero]
      intro hzero
      exact hnumber (UInt32.toNat_inj.mp hzero)
    dsimp only
    split
    · rfl
    next hrange =>
      simp only [UInt32.lt_iff_toNat_lt, toNat_pred hpos] at hrange
      have hbeyond : (documentLines content.toList).length ≤ entry.1.toNat - 1 := by
        rw [length_documentLines]
        unfold Shown at h
        omega
      rw [toNat_pred hpos, List.getElem?_eq_none_iff.mpr hbeyond, Option.map_none]

/-- Of a range counts only whether it shows the line. -/
theorem ofVerdict?_congr (h : Shown content range entry.1 ↔ Shown content other entry.1) :
    ofVerdict? content range entry = ofVerdict? content other entry := by
  by_cases hshown : Shown content range entry.1
  · obtain ⟨line, hline, hhint⟩ := exists_ofVerdict?_of_shown hshown
    obtain ⟨same, hsame, hother⟩ := exists_ofVerdict?_of_shown (h.mp hshown)
    obtain rfl := Option.some.inj (hline.symm.trans hsame)
    rw [hhint, hother]
  · rw [ofVerdict?_of_not_shown hshown, ofVerdict?_of_not_shown (mt h.mpr hshown)]

/-- A hint stands at the end of the line of its verdict. -/
theorem placed_of_ofVerdict? {hint : Hint} (h : ofVerdict? content range entry = some hint) :
    1 ≤ entry.1.toNat ∧ hint.line = entry.1 - 1 ∧
      Nonempty (LineEnd content.toList hint.line.toNat hint.column) := by
  by_cases hshown : Shown content range entry.1
  · obtain ⟨line, hline, hhint⟩ := exists_ofVerdict?_of_shown hshown
    obtain rfl := Option.some.inj (hhint.symm.trans h)
    refine ⟨hshown.1, rfl, ?_⟩
    rw [toNat_pred hshown.1]
    exact nonempty_lineEnd hline
  · rw [ofVerdict?_of_not_shown hshown] at h
    exact absurd h (Option.some_ne_none hint).symm

/-! ## All verdicts -/

/-- The line of a hint, and what it says there. -/
def wording (hint : Hint) : UInt32 × String × Option String := (hint.line, hint.label, hint.tooltip)

/-- The hints say, by line, what the verdicts on the lines that are shown say. -/
theorem map_wording_filterMap (entries : List (UInt32 × Verdict)) :
    (entries.filterMap (ofVerdict? content range)).map wording =
      (entries.filter fun entry => Shown content range entry.1).map fun (number, verdict) =>
        (number - 1, " " ++ verdict.describe, verdict.shape?.map ("as: " ++ ·)) := by
  induction entries with
  | nil => rfl
  | cons entry rest ih =>
      by_cases hshown : Shown content range entry.1
      · obtain ⟨line, -, hhint⟩ := exists_ofVerdict?_of_shown hshown
        rw [List.filterMap_cons_some hhint, List.map_cons, ih,
          List.filter_cons_of_pos (by simpa using hshown), List.map_cons]
        rfl
      · rw [List.filterMap_cons_none (ofVerdict?_of_not_shown hshown), ih,
          List.filter_cons_of_neg (by simpa using hshown)]

/-- The hints come in the order of their lines, and at most one for each. -/
theorem ascending_ofReport (content : String) (report : Report) (range : LineRange) :
    (ofReport content report range).Pairwise fun first second => first.line < second.line := by
  rw [ofReport_eq_filterMap]
  apply report.ascending.filterMap
  intro first second hlt hint hhint later hlater
  obtain ⟨hpos, hline, -⟩ := placed_of_ofVerdict? hhint
  obtain ⟨hpos', hline', -⟩ := placed_of_ofVerdict? hlater
  rw [UInt32.lt_iff_toNat_lt] at hlt
  rw [hline, hline', UInt32.lt_iff_toNat_lt, toNat_pred hpos, toNat_pred hpos']
  omega

/-- A list that is taken low elements first is taken in two parts. -/
theorem filterMap_eq_append {α β : Type} {f lower upper : α → Option β} {r : α → α → Prop}
    {items : List α} (low : α → Prop) (hitems : items.Pairwise r)
    (hdown : ∀ first second, r first second → low second → low first)
    (hlow : ∀ item, low item → f item = lower item ∧ upper item = none)
    (hhigh : ∀ item, ¬ low item → f item = upper item ∧ lower item = none) :
    items.filterMap f = items.filterMap lower ++ items.filterMap upper := by
  induction items with
  | nil => rfl
  | cons item rest ih =>
      obtain ⟨hrest, htail⟩ := List.pairwise_cons.mp hitems
      by_cases hitem : low item
      · obtain ⟨hsame, hnone⟩ := hlow item hitem
        rw [List.filterMap_cons, List.filterMap_cons, hsame, List.filterMap_cons_none hnone, ih htail]
        cases lower item <;> rfl
      · -- no later item is low again
        have hall : ∀ later ∈ item :: rest, ¬ low later := by
          refine List.forall_mem_cons.mpr ⟨hitem, fun later hlater hlow => ?_⟩
          exact hitem (hdown item later (hrest later hlater) hlow)
        have hnone : (item :: rest).filterMap lower = [] :=
          List.filterMap_eq_nil_iff.mpr fun later hlater => (hhigh later (hall later hlater)).2
        rw [hnone, List.nil_append]
        exact List.filterMap_congr fun later hlater => (hhigh later (hall later hlater)).1

/-- What is shown of a range is what is shown of its two parts. -/
theorem ofReport_append (content : String) (report : Report) {range : LineRange} {middle : UInt32}
    (hfirst : range.first ≤ middle) (hlast : middle < range.last) :
    ofReport content report range =
      ofReport content report ⟨range.first, middle⟩ ++
        ofReport content report ⟨middle + 1, range.last⟩ := by
  rw [UInt32.le_iff_toNat_le] at hfirst
  rw [UInt32.lt_iff_toNat_lt] at hlast
  have hnext : (middle + 1).toNat = middle.toNat + 1 := by
    have hbound := range.last.toNat_lt
    rw [UInt32.toNat_add, UInt32.toNat_one]
    omega
  refine filterMap_eq_append (fun entry => entry.1.toNat ≤ middle.toNat + 1) report.ascending
    ?_ ?_ ?_
  · intro first second hlt hsecond
    rw [UInt32.lt_iff_toNat_lt] at hlt
    omega
  · intro entry hentry
    refine ⟨ofVerdict?_congr ?_, ofVerdict?_of_not_shown ?_⟩
    · simp only [Shown]
      omega
    · simp only [Shown, hnext]
      omega
  · intro entry hentry
    refine ⟨ofVerdict?_congr ?_, ofVerdict?_of_not_shown ?_⟩
    · simp only [Shown, hnext]
      omega
    · simp only [Shown]
      omega

/-- The hints of a report in a document are in the order of their lines, one for each verdict on a line
that is asked for and there, worded as the verdict is, and each stands at the end of its line. The
hints of a range are those of its two parts. -/
theorem hints_at_line_ends (content : String) (report : Report) (range : LineRange) :
    let hints := ofReport content report range
    hints.Pairwise (fun first second => first.line < second.line) ∧
      (hints.map wording =
        (report.entries.filter fun entry => Shown content range entry.1).map fun (number, verdict) =>
          (number - 1, " " ++ verdict.describe, verdict.shape?.map ("as: " ++ ·))) ∧
      (∀ hint ∈ hints, Nonempty (LineEnd content.toList hint.line.toNat hint.column)) ∧
      ∀ middle, range.first ≤ middle → middle < range.last →
        hints = ofReport content report ⟨range.first, middle⟩ ++
          ofReport content report ⟨middle + 1, range.last⟩ := by
  intro hints
  refine ⟨ascending_ofReport content report range, map_wording_filterMap report.entries, ?_, ?_⟩
  · intro hint hhint
    obtain ⟨entry, -, hentry⟩ := List.mem_filterMap.mp hhint
    obtain ⟨-, -, hend⟩ := placed_of_ofVerdict? hentry
    exact hend
  · intro middle hfirst hlast
    exact ofReport_append content report hfirst hlast

/-! ## A document with all line breaks -/

/-- Three breaks, one of each kind, and a character that takes two code units. -/
def brokenContent : String := "a\r\nbc\r𝕏\n"

/-- Verdicts before the first line, on the first, third and last line, and behind the document. -/
def brokenReport : Report := .ofEntries
  [(0, .inlinedCall "e"), (1, .inlinedCall "f"), (3, .canInline "g" "2" "x"), (4, .inlinedCall "h"),
    (5, .inlinedCall "i")]

theorem hints_at_line_ends_broken :
    ofReport brokenContent brokenReport ⟨0, 9⟩ =
        [⟨0, 1, " inlining call to f", none⟩, ⟨2, 2, " can inline g with cost 2", some "as: x"⟩,
          ⟨3, 0, " inlining call to h", none⟩] ∧
      Nonempty (LineEnd brokenContent.toList 2 2) ∧
      ofReport brokenContent brokenReport ⟨0, 9⟩ =
        ofReport brokenContent brokenReport ⟨0, 1⟩ ++ ofReport brokenContent brokenReport ⟨2, 9⟩ := by
  have hhints : ofReport brokenContent brokenReport ⟨0, 9⟩ =
      [⟨0, 1, " inlining call to f", none⟩, ⟨2, 2, " can inline g with cost 2", some "as: x"⟩,
        ⟨3, 0, " inlining call to h", none⟩] := by decide +kernel
  obtain ⟨-, -, hends, hparts⟩ := hints_at_line_ends brokenContent brokenReport ⟨0, 9⟩
  refine ⟨hhints, ?_, hparts 1 (by decide) (by decide)⟩
  exact hends ⟨2, 2, " can inline g with cost 2", some "as: x"⟩ (by rw [hhints]; simp)

end SsaLens.Hint
