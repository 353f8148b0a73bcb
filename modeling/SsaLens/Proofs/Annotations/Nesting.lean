import Mathlib.Data.List.Induction
import SsaLens.Proofs.Annotations.Slot

/-! # Nested runs

While the report of a toggle is computed, other actions run and come to their end. Such a run leaves
the annotations as if every report had been there at once: no file waits, and each displays what came
last for it.
-/

namespace SsaLens.Annotations

open FileAnnotations

/-- What ran: a toggle that showed its file, with the report that it computed, a toggle that hid its file,
or a refresh. -/
inductive Event where
  | shown (fileName : String) (report : Report)
  | hidden (fileName : String)
  | refreshed (fileName : String) (report : Report)
  deriving DecidableEq

namespace Event

def fileName : Event → String
  | shown fileName _ | hidden fileName | refreshed fileName _ => fileName

/-- What an event makes of the slot of its file, if its report is there at once. -/
def change : Event → Option FileAnnotations → Option FileAnnotations
  | shown _ report, _ => some (.ready report)
  | hidden _, _ => none
  | refreshed _ report, slot => renew report slot

/-- Let an event happen at once. -/
def happen (annotations : Annotations) : Event → Annotations
  | shown fileName report => annotations.insert fileName (.ready report)
  | hidden fileName => annotations.erase fileName
  | refreshed fileName report => annotations.refresh fileName report

/-- An event changes the slot of its file only. -/
theorem get?_happen (annotations : Annotations) (event : Event) (probe : String) :
    (event.happen annotations).get? probe =
      if event.fileName = probe then event.change (annotations.get? probe)
      else annotations.get? probe := by
  cases event with
  | shown fileName report => exact SortedMap.get?_insert annotations fileName probe _
  | hidden fileName => exact SortedMap.get?_erase annotations fileName probe
  | refreshed fileName report => exact get?_refresh annotations fileName probe report

/-- A report that arrives after an event might as well have arrived before it. -/
theorem change_arrive (event : Event) (report : Report) (slot : Option FileAnnotations) :
    event.change (arrive report slot) = arrive report (event.change slot) := by
  cases event with
  | shown fileName content => rfl
  | hidden fileName => rfl
  | refreshed fileName content =>
      rw [change, renew_arrive]
      exact (arrive_renew report content slot).symm

/-- A delivery and an event may come in either order. -/
theorem deliver_happen (annotations : Annotations) (event : Event) (fileName : String)
    (report : Report) :
    (event.happen annotations).deliver fileName report =
      event.happen (annotations.deliver fileName report) := by
  refine SortedMap.ext_get? fun probe => ?_
  rw [get?_deliver, get?_happen, get?_happen, get?_deliver]
  by_cases hdelivered : fileName = probe
  · by_cases hevent : event.fileName = probe
    · simp only [hdelivered, hevent, if_true, change_arrive]
    · simp only [hdelivered, hevent, if_true, if_false]
  · simp only [hdelivered, if_false]

end Event

/-- Let events happen one after the other, each at once. -/
def replay (annotations : Annotations) (events : List Event) : Annotations :=
  events.foldl Event.happen annotations

/-- Events are replayed one after the other. -/
theorem replay_append (annotations : Annotations) (first second : List Event) :
    annotations.replay (first ++ second) = (annotations.replay first).replay second :=
  List.foldl_append

theorem replay_singleton (annotations : Annotations) (event : Event) :
    annotations.replay [event] = event.happen annotations := rfl

/-- A delivery may come before the events that happen meanwhile. -/
theorem deliver_replay (annotations : Annotations) (events : List Event) (fileName : String)
    (report : Report) :
    (annotations.replay events).deliver fileName report =
      (annotations.deliver fileName report).replay events := by
  induction events generalizing annotations with
  | nil => rfl
  | cons event rest ih =>
      calc (annotations.replay (event :: rest)).deliver fileName report
          = ((event.happen annotations).replay rest).deliver fileName report := rfl
        _ = ((event.happen annotations).deliver fileName report).replay rest := ih _
        _ = (annotations.deliver fileName report).replay (event :: rest) := by
              rw [event.deliver_happen]; rfl

mutual

/-- What ran of an action that was observed, in the order in which it began. -/
def Action.events : Action → Observation → List Event
  | .toggle fileName during report, .mk _ seen _ _ _ =>
      match seen with
      | some seen => .shown fileName report :: eventsAll during seen
      | none => [.hidden fileName]
  | .refresh fileName report, _ => [.refreshed fileName report]
  | .look _, _ => []

/-- What ran of actions that were observed. -/
def eventsAll : List Action → List Observation → List Event
  | action :: rest, observation :: others => action.events observation ++ eventsAll rest others
  | _, _ => []

end

/-- A toggle of a shown file runs nothing else. -/
theorem perform_toggle_of_shown {annotations : Annotations} {fileName : String}
    (h : annotations.isShown fileName = true) (during : List Action) (report : Report) :
    (Action.toggle fileName during report).perform annotations =
      (annotations.erase fileName,
        observe (annotations.erase fileName) fileName (.switched .hidden) none) := by
  rw [Action.perform, enter, if_pos h]

/-- A toggle of a hidden file runs its actions while the file waits, and then delivers. -/
theorem perform_toggle_of_hidden {annotations : Annotations} {fileName : String}
    (h : ¬ annotations.isShown fileName = true) (during : List Action) (report : Report) :
    (Action.toggle fileName during report).perform annotations =
      let run := performAll (annotations.insert fileName .pending) during
      let after := run.1.deliver fileName report
      (after, after.observe fileName (.switched .shown) (some run.2)) := by
  rw [Action.perform, enter, if_neg h]

/-- The report that a toggle waits for is delivered to it. -/
theorem deliver_insert_pending (annotations : Annotations) (fileName : String) (report : Report) :
    deliver (annotations.insert fileName .pending) fileName report =
      annotations.insert fileName (.ready report) := by
  refine SortedMap.ext_get? fun probe => ?_
  rw [get?_deliver, SortedMap.get?_insert, SortedMap.get?_insert]
  split <;> rfl

mutual

/-- An action ends as if all that ran in it had happened at once. -/
theorem perform_eq_replay (annotations : Annotations) : (action : Action) →
    (action.perform annotations).1 =
      annotations.replay (action.events (action.perform annotations).2)
  | .toggle fileName during report => by
      by_cases hshown : annotations.isShown fileName = true
      · rw [perform_toggle_of_shown hshown]
        rfl
      · -- the report that is delivered last might as well have been there from the beginning
        have hduring := performAll_eq_replay (annotations.insert fileName .pending) during
        rw [perform_toggle_of_hidden hshown]
        dsimp only
        rw [hduring, deliver_replay, deliver_insert_pending]
        rfl
  | .refresh fileName report => rfl
  | .look fileName => rfl

/-- Actions one after the other do what their events do, each at once. -/
theorem performAll_eq_replay (annotations : Annotations) : (actions : List Action) →
    (performAll annotations actions).1 =
      annotations.replay (eventsAll actions (performAll annotations actions).2)
  | [] => rfl
  | action :: rest => by
      have hfirst := perform_eq_replay annotations action
      have hrest := performAll_eq_replay (action.perform annotations).1 rest
      rw [performAll]
      dsimp only
      rw [eventsAll, replay_append, ← hfirst, hrest]

end

/-! ## What is displayed -/

/-- The report of a refresh of a file. -/
def Event.renewal? (fileName : String) : Event → Option Report
  | refreshed other report => if other = fileName then some report else none
  | shown .. | hidden _ => none

/-- The report of the last refresh of a file. -/
def lastRenewal? (fileName : String) (events : List Event) : Option Report :=
  events.reverse.findSome? (Event.renewal? fileName)

/-- An event switches a file if it shows or hides it. -/
def Event.Switches (fileName : String) : Event → Prop
  | shown other _ | hidden other => other = fileName
  | refreshed .. => False

/-- An event of another file neither renews nor switches a file. -/
theorem Event.renewal?_of_ne {event : Event} {fileName : String} (h : event.fileName ≠ fileName) :
    event.renewal? fileName = none ∧ ¬ event.Switches fileName := by
  cases event with
  | shown other report => exact ⟨rfl, h⟩
  | hidden other => exact ⟨rfl, h⟩
  | refreshed other report => exact ⟨if_neg h, not_false⟩

/-- A file that is not hidden was shown by a last event, and has the report of the last refresh since. -/
theorem exists_last_shown {events : List Event} {fileName : String} {slot : FileAnnotations}
    (h : (replay ∅ events).get? fileName = some slot) :
    ∃ before report later, events = before ++ .shown fileName report :: later ∧
      (∀ event ∈ later, ¬ event.Switches fileName) ∧
      slot = .ready ((lastRenewal? fileName later).getD report) := by
  induction events using List.reverseRecOn generalizing slot with
  | nil => simp [replay] at h
  | append_singleton events event ih =>
      rw [replay_append, replay_singleton, Event.get?_happen] at h
      by_cases heq : event.fileName = fileName
      · rw [if_pos heq] at h
        cases event with
        | shown other report =>
            obtain rfl : other = fileName := heq
            exact ⟨events, report, [], rfl, List.forall_mem_nil _, (Option.some.inj h).symm⟩
        | hidden other => exact absurd h.symm (Option.some_ne_none slot)
        | refreshed other content =>
            obtain rfl : other = fileName := heq
            cases hslot : (replay ∅ events).get? other with
            | none => simp [hslot, Event.change, renew] at h
            | some kept =>
                obtain ⟨before, report, later, rfl, hlater, -⟩ := ih hslot
                refine ⟨before, report, later ++ [.refreshed other content], by simp,
                  List.forall_mem_append.mpr ⟨hlater, by simp [Event.Switches]⟩, ?_⟩
                rw [hslot] at h
                rw [lastRenewal?, findSome?_reverse_concat]
                simpa [Event.renewal?, Event.change, renew] using h.symm
      · rw [if_neg heq] at h
        obtain ⟨before, report, later, rfl, hlater, hreport⟩ := ih h
        obtain ⟨hrenewal, hkeeps⟩ := Event.renewal?_of_ne heq
        refine ⟨before, report, later ++ [event], by simp,
          List.forall_mem_append.mpr ⟨hlater, by simpa using hkeeps⟩, ?_⟩
        rw [lastRenewal?, findSome?_reverse_concat, hrenewal, Option.none_or, hreport, lastRenewal?]

/-- After a nested run no file waits. A file that is shown displays its last refresh since it was last
shown, or else the report that was then computed for it. -/
theorem report?_performAll (actions : List Action) (fileName : String)
    (h : (performAll ∅ actions).1.isShown fileName = true) :
    ∃ before report later,
      eventsAll actions (performAll ∅ actions).2 = before ++ .shown fileName report :: later ∧
        (∀ event ∈ later, ¬ event.Switches fileName) ∧
        (performAll ∅ actions).1.report? fileName =
          some ((lastRenewal? fileName later).getD report) := by
  obtain ⟨slot, hslot⟩ := Option.isSome_iff_exists.mp h
  rw [report?_eq_content, hslot]
  rw [performAll_eq_replay] at hslot
  obtain ⟨before, report, later, hevents, hlater, rfl⟩ := exists_last_shown hslot
  exact ⟨before, report, later, hevents, hlater, rfl⟩

/-- A report of one inlined call. -/
def callReport (name : String) : Report := .ofEntries [(3, .inlinedCall name)]

/-- While the report of a file is computed it is hidden, shown again and refreshed. -/
def reshown : List Action :=
  [.toggle "/a.go"
    [.toggle "/a.go" [] (callReport "never"),
      .toggle "/a.go" [.toggle "/b.go" [.refresh "/a.go" (callReport "saved")] (callReport "other")]
        (callReport "inner")]
    (callReport "outer")]

theorem report?_performAll_reshown :
    (performAll ∅ reshown).1.isShown "/a.go" = true ∧
      (∃ before report later,
        eventsAll reshown (performAll ∅ reshown).2 = before ++ .shown "/a.go" report :: later ∧
          (∀ event ∈ later, ¬ event.Switches "/a.go") ∧
          (performAll ∅ reshown).1.report? "/a.go" =
            some ((lastRenewal? "/a.go" later).getD report)) ∧
      (performAll ∅ reshown).1.report? "/a.go" = some (callReport "saved") :=
  ⟨by decide, report?_performAll reshown "/a.go" (by decide), by decide⟩

end SsaLens.Annotations
