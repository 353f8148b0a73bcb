import SsaLens.Proofs.Annotations.Overlap

/-! # Late reports

A report that is delivered reaches any file that waits for one, also if the file was hidden and shown
again since its toggle began. What a file displays is therefore fresh only if the first report that
comes after its last entry is the one of that toggle, as it is when no earlier toggle still computes.
-/

namespace SsaLens.Annotations

open FileAnnotations

/-- How many toggles have begun; the next one gets this number. -/
def begun (steps : List Step) : Nat :=
  steps.countP fun
    | .enter _ => true
    | .deliver .. | .refresh .. => false

/-- The toggle and the report of a delivery to a file. -/
def Step.delivered? (fileName : String) : Step → Option (Nat × Report)
  | deliver toggle other report => if other = fileName then some (toggle, report) else none
  | enter _ | refresh .. => none

/-- The report of a refresh of a file. -/
def Step.refreshed? (fileName : String) : Step → Option Report
  | refresh other report => if other = fileName then some report else none
  | enter _ | deliver .. => none

def firstDelivery? (fileName : String) (steps : List Step) : Option (Nat × Report) :=
  steps.findSome? (Step.delivered? fileName)

def lastRefresh? (fileName : String) (steps : List Step) : Option Report :=
  steps.reverse.findSome? (Step.refreshed? fileName)

/-- What fills the slot of a file in the steps since its last entry: the last refresh, or else the first
report that is delivered, whichever toggle it is from. -/
def filled? (fileName : String) (later : List Step) : Option Report :=
  (lastRefresh? fileName later).or ((firstDelivery? fileName later).map (·.2))

/-- The last refresh of a file decides, and else the last report that was delivered to it. -/
theorem filled?_concat (fileName : String) (later : List Step) (step : Step) :
    filled? fileName (later ++ [step]) =
      (step.refreshed? fileName).or
        ((filled? fileName later).or ((step.delivered? fileName).map (·.2))) := by
  have hlast : lastRefresh? fileName (later ++ [step]) =
      (step.refreshed? fileName).or (lastRefresh? fileName later) :=
    findSome?_reverse_concat (Step.refreshed? fileName) later step
  have hfirst : firstDelivery? fileName (later ++ [step]) =
      (firstDelivery? fileName later).or (step.delivered? fileName) := by
    rw [firstDelivery?, List.findSome?_append, List.findSome?_singleton, firstDelivery?]
  simp only [filled?, hlast, hfirst, Option.map_or, Option.or_assoc]

/-- A slot that waited since the last entry is filled by the first report that comes. -/
theorem get?_after_entry {before later : List Step} {fileName : String}
    (hlater : entries fileName later = 0) (hhidden : (after before).isShown fileName = false) :
    (after (before ++ .enter fileName :: later)).get? fileName =
      some ((filled? fileName later).elim .pending .ready) := by
  induction later using List.reverseRecOn with
  | nil =>
      rw [after_concat, Step.get?_perform, (get?_eq_none_iff _ _).mpr hhidden]
      exact if_pos rfl
  | append_singleton later step ih =>
      rw [entries_concat] at hlater
      have hother : ¬ step.Enters fileName := fun henters => by simp [henters] at hlater
      rw [← List.cons_append, ← List.append_assoc, after_concat, Step.get?_perform, filled?_concat,
        ih (by omega)]
      cases step with
      | enter other =>
          have hne : other ≠ fileName := fun heq => hother (congrArg Step.enter heq)
          simp [Step.fileName, Step.refreshed?, Step.delivered?, hne]
      | deliver toggle other report =>
          by_cases heq : other = fileName
          · cases hfilled : filled? fileName later <;>
              simp [Step.fileName, Step.refreshed?, Step.delivered?, Step.change, arrive, heq]
          · simp [Step.fileName, Step.refreshed?, Step.delivered?, heq]
      | refresh other report =>
          by_cases heq : other = fileName
          · simp [Step.fileName, Step.refreshed?, Step.change, renew, heq]
          · simp [Step.fileName, Step.refreshed?, Step.delivered?, heq]

/-- A report of a file is fresh if the toggle that began last delivered it, or a refresh since. -/
def Fresh (fileName : String) (before later : List Step) (report : Report) : Prop :=
  .deliver (begun before) fileName report ∈ later ∨ .refresh fileName report ∈ later

/-- A report of a later refresh is fresh. -/
theorem fresh_of_lastRefresh? {fileName : String} {before later : List Step} {report : Report}
    (h : lastRefresh? fileName later = some report) : Fresh fileName before later report := by
  obtain ⟨step, hstep, hrefreshed⟩ := List.exists_of_findSome?_eq_some h
  cases step with
  | enter other => simp [Step.refreshed?] at hrefreshed
  | deliver toggle other content => simp [Step.refreshed?] at hrefreshed
  | refresh other content =>
      simp only [Step.refreshed?, Option.ite_none_right_eq_some, Option.some.injEq] at hrefreshed
      obtain ⟨rfl, rfl⟩ := hrefreshed
      exact Or.inr (List.mem_reverse.mp hstep)

/-- A file is hidden since its last entry if it was shown before. -/
theorem isShown_after_entry {before later : List Step} {fileName : String}
    (hlater : entries fileName later = 0) :
    (after (before ++ .enter fileName :: later)).isShown fileName =
      !(after before).isShown fileName := by
  have hentries : entries fileName (before ++ .enter fileName :: later) =
      entries fileName before + 1 := by
    rw [entries] at hlater ⊢
    rw [List.countP_append, List.countP_cons, hlater]
    simp [Step.Enters, entries]
  rw [Bool.eq_iff_iff, isShown_after, hentries, Nat.odd_add_one, ← isShown_after,
    Bool.not_eq_true', Bool.not_eq_true]

/-- What a file displays in the steps since its last entry, and when it is fresh: unless a refresh
came, the first report that was delivered is displayed, so that one has to be. -/
theorem report?_since_entry {before later : List Step} {fileName : String}
    (hlater : entries fileName later = 0) :
    (after (before ++ .enter fileName :: later)).report? fileName =
        (if (after before).isShown fileName then none else filled? fileName later) ∧
      ((∀ report, (after (before ++ .enter fileName :: later)).report? fileName = some report →
          Fresh fileName before later report) ↔
        (after before).isShown fileName = true ∨ (lastRefresh? fileName later).isSome = true ∨
          ∀ toggle report, firstDelivery? fileName later = some (toggle, report) →
            Fresh fileName before later report) := by
  have hreport : (after (before ++ .enter fileName :: later)).report? fileName =
      if (after before).isShown fileName then none else filled? fileName later := by
    split
    next hshown =>
      refine report?_of_hidden ?_
      rw [isShown_after_entry hlater, hshown, Bool.not_true]
    next hshown =>
      rw [report?_eq_content, get?_after_entry hlater (Bool.not_eq_true _ ▸ hshown)]
      cases filled? fileName later <;> rfl
  refine ⟨hreport, ?_⟩
  rw [hreport]
  by_cases hshown : (after before).isShown fileName = true
  · simp [hshown]
  cases hrefresh : lastRefresh? fileName later with
  | some last =>
      simp [hshown, filled?, hrefresh, fresh_of_lastRefresh? hrefresh]
  | none =>
      have hfilled : filled? fileName later = (firstDelivery? fileName later).map (·.2) := by
        rw [filled?, hrefresh, Option.none_or]
      rw [if_neg hshown, hfilled]
      constructor
      · intro hfresh
        refine Or.inr (Or.inr fun toggle report hfirst => hfresh report ?_)
        rw [hfirst, Option.map_some]
      · rintro (habsurd | habsurd | hfirst) report hreport
        · exact absurd habsurd hshown
        · exact absurd habsurd (by simp)
        · obtain ⟨⟨toggle, content⟩, hdelivery, rfl⟩ := Option.map_eq_some_iff.mp hreport
          exact hfirst toggle content hdelivery

/-! ## Interleavings -/

/-- The steps that are possible next, and the toggles with their files that compute a report before and
after them. -/
inductive Step.Possible (annotations : Annotations) (number : Nat) :
    List (Nat × String) → Step → List (Nat × String) → Prop where
  | shows {computing : List (Nat × String)} {fileName : String}
      (h : annotations.isShown fileName = false) :
      Possible annotations number computing (.enter fileName) ((number, fileName) :: computing)
  | hides {computing : List (Nat × String)} {fileName : String}
      (h : annotations.isShown fileName = true) :
      Possible annotations number computing (.enter fileName) computing
  | deliver {computing : List (Nat × String)} {toggle : Nat} {fileName : String} {report : Report}
      (h : (toggle, fileName) ∈ computing) :
      Possible annotations number computing (.deliver toggle fileName report)
        (computing.erase (toggle, fileName))
  | refresh {computing : List (Nat × String)} {fileName : String} {report : Report} :
      Possible annotations number computing (.refresh fileName report) computing

/-- Steps of toggles and refreshes in an order in which they can be taken, with the toggles that still
compute a report. -/
inductive Interleaved : List Step → List (Nat × String) → Prop where
  | start : Interleaved [] []
  | step {steps : List Step} {step : Step} {before after : List (Nat × String)}
      (h : Interleaved steps before)
      (hstep : step.Possible (Annotations.after steps) (begun steps) before after) :
      Interleaved (steps ++ [step]) after

/-- A step leaves one list of toggles that still compute. -/
theorem Step.Possible.unique {annotations : Annotations} {number : Nat} {step : Step}
    {computing first second : List (Nat × String)}
    (hfirst : step.Possible annotations number computing first)
    (hsecond : step.Possible annotations number computing second) : first = second := by
  cases hfirst with
  | shows hhidden =>
      cases hsecond with
      | shows => rfl
      | hides hshown => simp [hhidden] at hshown
  | hides hshown =>
      cases hsecond with
      | shows hhidden => simp [hhidden] at hshown
      | hides => rfl
  | deliver => cases hsecond; rfl
  | refresh => cases hsecond; rfl

namespace Interleaved

/-- The last step of a run was possible after the steps before. -/
theorem of_concat {steps : List Step} {step : Step} {computing : List (Nat × String)}
    (h : Interleaved (steps ++ [step]) computing) :
    ∃ earlier, Interleaved steps earlier ∧
      step.Possible (after steps) (begun steps) earlier computing := by
  generalize hall : steps ++ [step] = all at h
  cases h with
  | start => simp at hall
  | step h hstep =>
      obtain ⟨rfl, hlast⟩ := List.append_inj' hall rfl
      obtain rfl := List.singleton_inj.mp hlast
      exact ⟨_, h, hstep⟩

theorem eq_nil {computing : List (Nat × String)} (h : Interleaved [] computing) :
    computing = [] := by
  generalize hall : ([] : List Step) = all at h
  cases h with
  | start => rfl
  | step => simp at hall

/-- Which toggles still compute is decided by the steps of the run. -/
theorem unique {steps : List Step} {first second : List (Nat × String)}
    (hfirst : Interleaved steps first) (hsecond : Interleaved steps second) : first = second := by
  induction steps using List.reverseRecOn generalizing first second with
  | nil =>
      rw [hfirst.eq_nil, hsecond.eq_nil]
  | append_singleton steps step ih =>
      obtain ⟨firstEarlier, hfirst, hfirststep⟩ := hfirst.of_concat
      obtain ⟨secondEarlier, hsecond, hsecondstep⟩ := hsecond.of_concat
      obtain rfl := ih hfirst hsecond
      exact hfirststep.unique hsecondstep

section Settled

variable {before later : List Step} {fileName : String} {settled computing : List (Nat × String)}
variable (hbefore : Interleaved before settled)
variable (hsettled : ∀ toggle, (toggle, fileName) ∉ settled)

include hbefore hsettled

/-- If no toggle of a file computes a report when one begins, that one alone does so until the next
begins. -/
theorem toggle_eq_begun (h : Interleaved (before ++ .enter fileName :: later) computing)
    (hlater : entries fileName later = 0) :
    (∀ toggle, (toggle, fileName) ∈ computing → toggle = begun before) ∧
      ∀ toggle report, .deliver toggle fileName report ∈ later → toggle = begun before := by
  induction later using List.reverseRecOn generalizing computing with
  | nil =>
      obtain ⟨earlier, hearlier, hstep⟩ := h.of_concat
      obtain rfl := hbefore.unique hearlier
      refine ⟨fun toggle hmem => ?_, fun toggle report hmem => absurd hmem List.not_mem_nil⟩
      cases hstep with
      | shows =>
          rcases List.mem_cons.mp hmem with heq | hmem
          · exact congrArg Prod.fst heq
          · exact absurd hmem (hsettled toggle)
      | hides => exact absurd hmem (hsettled toggle)
  | append_singleton later step ih =>
      rw [entries_concat] at hlater
      have hother : ¬ step.Enters fileName := fun henters => by simp [henters] at hlater
      rw [← List.cons_append, ← List.append_assoc] at h
      obtain ⟨earlier, hearlier, hstep⟩ := h.of_concat
      obtain ⟨hcomputing, hdelivered⟩ := ih hearlier (by omega)
      constructor
      · intro toggle hmem
        cases hstep with
        | shows =>
            rcases List.mem_cons.mp hmem with heq | hmem
            · exact absurd (congrArg (Step.enter <| Prod.snd ·) heq).symm hother
            · exact hcomputing toggle hmem
        | hides => exact hcomputing toggle hmem
        | deliver => exact hcomputing toggle (List.mem_of_mem_erase hmem)
        | refresh => exact hcomputing toggle hmem
      · intro toggle report hmem
        rcases List.mem_append.mp hmem with hmem | hmem
        · exact hdelivered toggle report hmem
        · -- a delivery is possible only for a toggle that computes
          obtain rfl := List.mem_singleton.mp hmem
          cases hstep with
          | deliver hcomputes => exact hcomputing toggle hcomputes

/-- The reports of a file are then fresh until the next toggle begins. -/
theorem fresh (h : Interleaved (before ++ .enter fileName :: later) computing)
    (hlater : entries fileName later = 0) {report : Report}
    (hreport : (after (before ++ .enter fileName :: later)).report? fileName = some report) :
    Fresh fileName before later report := by
  refine (report?_since_entry hlater).2.mpr (Or.inr (Or.inr fun toggle content hfirst => ?_)) report
    hreport
  obtain ⟨step, hstep, hdelivered⟩ := List.exists_of_findSome?_eq_some hfirst
  cases step with
  | enter other => simp [Step.delivered?] at hdelivered
  | deliver number other found =>
      simp only [Step.delivered?, Option.ite_none_right_eq_some, Option.some.injEq,
        Prod.mk.injEq] at hdelivered
      obtain ⟨rfl, rfl, rfl⟩ := hdelivered
      obtain rfl := (toggle_eq_begun hbefore hsettled h hlater).2 number found hstep
      exact Or.inl hstep
  | refresh other found => simp [Step.delivered?] at hdelivered

end Settled

end Interleaved

/-! ## A late report

A file is shown, hidden and shown again, and then the report of the first toggle arrives. -/

/-- The report of a toggle whose file was hidden again is displayed while a later toggle still
computes its own. -/
theorem late_report_displayed :
    Interleaved ([.enter "/a.go", .enter "/a.go"] ++ .enter "/a.go" :: [.deliver 0 "/a.go" ∅])
        [(2, "/a.go")] ∧
      entries "/a.go" [.deliver 0 "/a.go" ∅] = 0 ∧
      (after ([.enter "/a.go", .enter "/a.go"] ++
        .enter "/a.go" :: [.deliver 0 "/a.go" ∅])).report? "/a.go" = some ∅ ∧
      ¬ Fresh "/a.go" [.enter "/a.go", .enter "/a.go"] [.deliver 0 "/a.go" ∅] ∅ := by
  have hfirst : Interleaved [.enter "/a.go"] [(0, "/a.go")] := .step .start (.shows (by decide))
  have hsecond : Interleaved [.enter "/a.go", .enter "/a.go"] [(0, "/a.go")] :=
    .step hfirst (.hides (by decide))
  have hthird : Interleaved [.enter "/a.go", .enter "/a.go", .enter "/a.go"]
      [(2, "/a.go"), (0, "/a.go")] := .step hsecond (.shows (by decide))
  refine ⟨.step hthird (.deliver (by decide)), by decide, by decide, ?_⟩
  rw [Fresh]
  decide

end SsaLens.Annotations
