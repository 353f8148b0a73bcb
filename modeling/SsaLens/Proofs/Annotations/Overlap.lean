import Mathlib.Algebra.Ring.Parity
import Mathlib.Data.List.Induction
import SsaLens.Proofs.Annotations.Slot

/-! # Overlapping toggles

Toggles and refreshes of many files run at the same time, and their steps mix in any order. The
first steps of the toggles of a file alternate between showing and hiding it, and nothing else
switches it.
-/

namespace SsaLens.Annotations

open FileAnnotations

/-- A step of a toggle or a refresh. Toggles are numbered by their entries, and a delivery says which
toggle it ends. -/
inductive Step where
  | enter (fileName : String)
  | deliver (toggle : Nat) (fileName : String) (report : Report)
  | refresh (fileName : String) (report : Report)
  deriving DecidableEq

namespace Step

/-- The file that a step is about. -/
def fileName : Step → String
  | enter fileName | deliver _ fileName _ | refresh fileName _ => fileName

/-- The step begins a toggle of the file. -/
def Enters (fileName : String) (step : Step) : Prop := step = enter fileName

instance (fileName : String) (step : Step) : Decidable (step.Enters fileName) :=
  inferInstanceAs (Decidable (step = enter fileName))

/-- Take a step. A delivery ends a toggle that has shown its file. -/
def perform (annotations : Annotations) : Step → Annotations × Answer
  | enter fileName =>
      ((annotations.enter fileName).1, .switched (annotations.enter fileName).2)
  | deliver _ fileName report => (annotations.deliver fileName report, .switched .shown)
  | refresh fileName report =>
      (annotations.refresh fileName report, .refreshed (annotations.isShown fileName))

/-- What a step makes of the slot of its file. -/
def change : Step → Option FileAnnotations → Option FileAnnotations
  | enter _ => switch
  | deliver _ _ report => arrive report
  | refresh _ report => renew report

/-- A step changes the slot of its file only. -/
theorem get?_perform (annotations : Annotations) (step : Step) (probe : String) :
    (step.perform annotations).1.get? probe =
      if step.fileName = probe then step.change (annotations.get? probe)
      else annotations.get? probe := by
  cases step with
  | enter fileName => exact get?_enter annotations fileName probe
  | deliver toggle fileName report => exact get?_deliver annotations fileName probe report
  | refresh fileName report => exact get?_refresh annotations fileName probe report

/-- A step about another file leaves a file as it is. -/
theorem get?_perform_of_ne {annotations : Annotations} {step : Step} {probe : String}
    (h : step.fileName ≠ probe) :
    (step.perform annotations).1.get? probe = annotations.get? probe := by
  rw [get?_perform, if_neg h]

/-- Only the first step of a toggle switches its file. -/
theorem isShown_perform (annotations : Annotations) (step : Step) (probe : String) :
    (step.perform annotations).1.isShown probe =
      if step.Enters probe then !annotations.isShown probe else annotations.isShown probe := by
  simp only [isShown_eq_isSome, get?_perform]
  by_cases heq : step.fileName = probe
  · rw [if_pos heq]
    subst heq
    cases step <;> simp [change, Enters, fileName]
  · have hother : ¬ step.Enters probe := fun henters => heq (by rw [henters]; rfl)
    rw [if_neg heq, if_neg hother]

end Step

/-- The annotations after some steps. -/
def after (steps : List Step) : Annotations :=
  steps.foldl (fun annotations step => (step.perform annotations).1) ∅

/-- How often toggles of a file have begun. -/
def entries (fileName : String) (steps : List Step) : Nat := steps.countP (Step.Enters fileName ·)

/-- What the first steps of the toggles of a file decide, in order. -/
def decided (fileName : String) (annotations : Annotations) : List Step → List Switched
  | [] => []
  | step :: rest =>
      (if step.Enters fileName then [(annotations.enter fileName).2] else []) ++
        decided fileName (step.perform annotations).1 rest

/-- Shown and hidden in turn. -/
def alternating (count : Nat) : List Switched :=
  (List.range count).map fun number => if Even number then .shown else .hidden

theorem after_concat (steps : List Step) (step : Step) :
    after (steps ++ [step]) = (step.perform (after steps)).1 := by
  simp [after]

/-- A step is counted if it enters the file. -/
theorem entries_concat (fileName : String) (steps : List Step) (step : Step) :
    entries fileName (steps ++ [step]) =
      entries fileName steps + if step.Enters fileName then 1 else 0 := by
  simp [entries, List.countP_append, List.countP_singleton]

/-- The entries of a longer run are decided in its parts, the later ones where the first part ends. -/
theorem decided_append (fileName : String) (annotations : Annotations) (first second : List Step) :
    decided fileName annotations (first ++ second) =
      decided fileName annotations first ++ decided fileName
        (first.foldl (fun annotations step => (step.perform annotations).1) annotations) second := by
  induction first generalizing annotations with
  | nil => rfl
  | cons step rest ih =>
      simp only [List.cons_append, decided, List.foldl_cons, ih, List.append_assoc]

theorem alternating_succ (count : Nat) :
    alternating (count + 1) = alternating count ++ [if Even count then .shown else .hidden] := by
  simp [alternating, List.range_succ]

/-- A file is shown exactly if it was entered an odd number of times. -/
theorem isShown_after (steps : List Step) (fileName : String) :
    (after steps).isShown fileName = true ↔ Odd (entries fileName steps) := by
  induction steps using List.reverseRecOn with
  | nil => simp [after, entries, isShown_eq_isSome]
  | append_singleton steps step ih =>
      rw [after_concat, Step.isShown_perform, entries_concat]
      split
      next => rw [Nat.odd_add_one, ← ih, Bool.not_eq_true', Bool.not_eq_true]
      next => rw [ih, Nat.add_zero]

/-- The entries of a file are decided in turns, whatever happens between them. -/
theorem decided_eq_alternating (steps : List Step) (fileName : String) :
    decided fileName ∅ steps = alternating (entries fileName steps) := by
  induction steps using List.reverseRecOn with
  | nil => rfl
  | append_singleton steps step ih =>
      have hparity : (if (after steps).isShown fileName then Switched.hidden else .shown) =
          if Even (entries fileName steps) then .shown else .hidden := by
        by_cases hshown : (after steps).isShown fileName
        · have hodd := (isShown_after steps fileName).mp hshown
          rw [if_pos hshown, if_neg (Nat.not_even_iff_odd.mpr hodd)]
        · have heven := Nat.not_odd_iff_even.mp (mt (isShown_after steps fileName).mpr hshown)
          rw [if_neg hshown, if_pos heven]
      rw [decided_append, ih, entries_concat, decided, decided, List.append_nil]
      split
      next => rw [alternating_succ, ← hparity, enter_snd]; rfl
      next => rw [List.append_nil, Nat.add_zero]

/-- What overlapping toggles and refreshes do to the files, in whatever order their steps are taken:
nothing is assumed of it, not even that a delivery has an entry. -/
theorem overlap_alternates (steps : List Step) :
    (∀ fileName, decided fileName ∅ steps = alternating (entries fileName steps)) ∧
      (∀ fileName, (after steps).isShown fileName = true ↔ Odd (entries fileName steps)) ∧
      (after steps).shownFiles.Pairwise (· < ·) ∧
      (∀ fileName, fileName ∈ (after steps).shownFiles ↔ Odd (entries fileName steps)) ∧
      (∀ fileName, ¬ Odd (entries fileName steps) → (after steps).report? fileName = none) ∧
      (∀ fileName report, ((Step.refresh fileName report).perform (after steps)).2 =
        .refreshed (decide (Odd (entries fileName steps)))) ∧
      (∀ (step : Step) fileName, ¬ step.Enters fileName →
        (step.perform (after steps)).1.isShown fileName = (after steps).isShown fileName) ∧
      ∀ (step : Step) fileName, step.fileName ≠ fileName →
        (step.perform (after steps)).1.isShown fileName = (after steps).isShown fileName ∧
          (step.perform (after steps)).1.report? fileName = (after steps).report? fileName := by
  refine ⟨decided_eq_alternating steps, isShown_after steps, shownFiles_ascending _, ?_, ?_, ?_, ?_,
    ?_⟩
  · intro fileName
    rw [mem_shownFiles_iff, isShown_after]
  · intro fileName heven
    rw [← isShown_after, Bool.not_eq_true] at heven
    exact report?_of_hidden heven
  · intro fileName report
    have hshown : (after steps).isShown fileName = decide (Odd (entries fileName steps)) := by
      rw [Bool.eq_iff_iff, isShown_after, decide_eq_true_iff]
    rw [Step.perform, hshown]
  · intro step fileName hother
    rw [Step.isShown_perform, if_neg hother]
  · intro step fileName hother
    have hslot : (step.perform (after steps)).1.get? fileName = (after steps).get? fileName :=
      Step.get?_perform_of_ne hother
    exact ⟨by rw [isShown_eq_isSome, hslot, isShown_eq_isSome],
      by rw [report?_eq_content, hslot, report?_eq_content]⟩

end SsaLens.Annotations
