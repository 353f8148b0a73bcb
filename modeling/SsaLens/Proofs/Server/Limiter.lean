import SsaLens.Proofs.Server.Settings

/-! # The build limiter

Showing a listing, and switching or saving a file of the workspace, take a permit of the build limiter. It
has as many permits as the settings say, and at least one, until the client configures more than it can
hold. With that message the server fails. Before, it finishes all messages; afterwards it handles none.
-/

namespace SsaLens

open SsaLens.Configuration (last? limit?)

namespace Server

/-- No configuration asks for more permits than the limiter can hold. -/
def Bearable (configurations : List Configuration) : Prop :=
  ∀ configuration ∈ configurations, ∀ limit ∈ configuration.limit?, limit ≤ permitLimit

instance (configurations : List Configuration) : Decidable (Bearable configurations) :=
  inferInstanceAs (Decidable (∀ configuration ∈ configurations, ∀ limit ∈ configuration.limit?,
    limit ≤ permitLimit))

/-! ## Limits -/

/-- A further configuration has to ask for no more permits than there can be. -/
theorem bearable_concat (configurations : List Configuration) (configuration : Configuration) :
    Bearable (configurations ++ [configuration]) ↔
      Bearable configurations ∧ ∀ limit ∈ configuration.limit?, limit ≤ permitLimit := by
  simp only [Bearable, List.forall_mem_append, List.forall_mem_singleton]

/-- The limit that counts was configured at some time, or it is that of a new server. -/
theorem maxConcurrent_after (configurations : List Configuration) :
    (Settings.after configurations).maxConcurrent = 2 ∨
      ∃ configuration ∈ configurations,
        configuration.limit? = some (Settings.after configurations).maxConcurrent := by
  rw [Settings.after_eq]
  cases hlast : last? limit? configurations with
  | none => exact .inl rfl
  | some limit =>
      obtain ⟨configuration, hmem, hlimit⟩ := List.exists_of_findSome?_eq_some hlast
      exact .inr ⟨configuration, List.mem_reverse.mp hmem, hlimit⟩

/-- A limit is never zero. -/
theorem maxConcurrent_pos (configurations : List Configuration) :
    1 ≤ (Settings.after configurations).maxConcurrent := by
  rcases maxConcurrent_after configurations with htwo | ⟨configuration, -, hlimit⟩
  · rw [htwo]
    decide
  · exact of_decide_eq_true (Option.filter_eq_some_iff.mp hlimit).2

/-- Without a configuration that asks for too many permits, the limiter can hold those of the settings. -/
theorem maxConcurrent_le_of_bearable {configurations : List Configuration}
    (h : Bearable configurations) :
    (Settings.after configurations).maxConcurrent ≤ permitLimit := by
  rcases maxConcurrent_after configurations with htwo | ⟨configuration, hmem, hlimit⟩
  · rw [htwo]
    decide
  · exact h configuration hmem _ hlimit

/-- A limiter that is there has the permits of the settings, unless the configuration asks for too many. -/
theorem permitsFor_after {configurations : List Configuration} (h : Bearable configurations)
    (configuration : Configuration) :
    permitsFor (Settings.after (configurations ++ [configuration])) =
      if Bearable (configurations ++ [configuration]) then
        some (Settings.after (configurations ++ [configuration])).maxConcurrent
      else none := by
  have hfits : (Settings.after (configurations ++ [configuration])).maxConcurrent ≤ permitLimit ↔
      Bearable (configurations ++ [configuration]) := by
    refine ⟨fun hle => (bearable_concat ..).mpr ⟨h, fun limit hlimit => ?_⟩,
      maxConcurrent_le_of_bearable⟩
    rw [Settings.after_concat, Settings.merge_eq, Option.mem_def.mp hlimit] at hle
    exact hle
  rw [permitsFor, max_eq_right (maxConcurrent_pos _)]
  simp only [hfits]

/-! ## The permits of a run -/

/-- There are permits as long as nothing unbearable was taken over. -/
theorem permits_handled (turns : List (Surroundings × Message)) :
    (initial.run turns).permits =
      if Bearable (configurations (initial.handled turns)) then
        some (initial.run turns).settings.maxConcurrent
      else none := by
  rw [settings_run]
  refine (run_initial_induction (motive := fun receipts server =>
    let taken := configurations (receipts.map Receipt.turn)
    server.settings = Settings.after taken ∧
      server.permits =
        if Bearable taken then some (Settings.after taken).maxConcurrent else none)
    ⟨rfl, rfl⟩ (fun receipts receipt permits hpermits ih => ?_) turns).2
  obtain ⟨hsettings, hlimiter⟩ := ih
  dsimp only
  rw [List.map_append, List.map_singleton, configurations_concat, Receipt.step]
  cases h : receipt.message.configuration? receipt.around with
  | none =>
      obtain ⟨hsame, hkept⟩ := handle_of_unconfigured h
      rw [Receipt.turn, h, Option.toList_none, List.append_nil, hsame, hkept]
      exact ⟨hsettings, hlimiter⟩
  | some configuration =>
      -- the server came to the message with a limiter
      have hbearable : Bearable (configurations (receipts.map Receipt.turn)) := by
        by_contra hlost
        rw [if_neg hlost, hpermits] at hlimiter
        exact absurd hlimiter (Option.some_ne_none permits)
      rw [handle_of_configured h, Receipt.turn, h, Option.toList_some, hsettings,
        ← Settings.after_concat, hpermits, Option.bind_some]
      exact ⟨rfl, permitsFor_after hbearable configuration⟩

/-- A server finished all messages exactly if it still has its limiter. -/
theorem finished_received_iff (turns : List (Surroundings × Message)) :
    Finished (initial.received turns) ↔ (initial.run turns).permits.isSome = true := by
  refine run_initial_induction (motive := fun receipts server =>
    Finished receipts ↔ server.permits.isSome = true)
    (iff_of_true (List.forall_mem_nil _) rfl) (fun receipts receipt permits hpermits ih => ?_) turns
  have hbefore : Finished receipts := ih.mpr (hpermits ▸ rfl)
  have hlast : receipt.step.2.finished = true ↔ receipt.step.1.permits.isSome = true :=
    finished_iff_of_permits hpermits
  rw [Finished, List.forall_mem_append, List.forall_mem_singleton, hlast]
  exact and_iff_right hbefore

/-- What is not handled any more comes after a configuration that asks for too many permits. -/
theorem bearable_handled_iff (turns : List (Surroundings × Message)) :
    Bearable (configurations (initial.handled turns)) ↔ Bearable (configurations turns) := by
  constructor
  · intro h
    have hlimiter : (initial.run turns).permits.isSome = true := by
      rw [permits_handled, if_pos h]
      rfl
    rwa [handled_of_finished ((finished_received_iff turns).mpr hlimiter)] at h
  · intro h configuration hmem
    have hsublist : List.Sublist (configurations (initial.handled turns)) (configurations turns) :=
      (handled_begins initial turns).sublist.filterMap _
    exact h configuration (hsublist.subset hmem)

/-- There are permits after a run exactly if no configuration asked for too many. -/
theorem permits_run (turns : List (Surroundings × Message)) :
    (initial.run turns).permits =
      if Bearable (configurations turns) then some (initial.run turns).settings.maxConcurrent
      else none := by
  rw [permits_handled]
  simp only [bearable_handled_iff]

/-- A run gets past all its messages exactly if no configuration asked for too many permits. -/
theorem finished_received_iff_bearable (turns : List (Surroundings × Message)) :
    Finished (initial.received turns) ↔ Bearable (configurations turns) := by
  rw [finished_received_iff, permits_run]
  split <;> simp [*]

/-- The limit is at least one, and there are as many permits as long as no configuration asks for more than
the limiter can hold. So long every message is finished but one that brings such a configuration, and what
comes after that one is not handled. -/
theorem limiter_run (turns : List (Surroundings × Message)) (turn : Surroundings × Message) :
    let server := initial.run turns
    let step := server.handle turn.1 turn.2
    1 ≤ server.settings.maxConcurrent ∧
      server.permits =
        (if Bearable (configurations turns) then some server.settings.maxConcurrent else none) ∧
      (Bearable (configurations turns) →
        initial.run (turns ++ [turn]) = step.1 ∧ initial.handled (turns ++ [turn]) = turns ++ [turn] ∧
          (step.2.finished = true ↔ Bearable (configurations (turns ++ [turn])))) ∧
      (¬ Bearable (configurations turns) →
        initial.run (turns ++ [turn]) = server ∧
          initial.handled (turns ++ [turn]) = initial.handled turns) := by
  intro server step
  refine ⟨?_, permits_run turns, fun hbearable => ?_, fun hlost => ?_⟩
  · have hsettings : server.settings = _ := settings_run turns
    rw [hsettings]
    exact maxConcurrent_pos _
  · have hfinished := (finished_received_iff_bearable turns).mpr hbearable
    obtain ⟨hrun, hreceived⟩ := run_append_of_finished hfinished [turn]
    have hlast : server.run [turn] = step.1 := ite_self _
    have hpermits : server.permits = some _ := (permits_run turns).trans (if_pos hbearable)
    refine ⟨hrun.trans hlast, ?_, ?_⟩
    · rw [handled, hreceived, List.map_append, ← handled, handled_of_finished hfinished]
      exact congrArg (turns ++ ·) (handled_single server turn)
    · rw [finished_iff_of_permits hpermits, ← hlast, ← hrun, permits_run]
      split <;> simp [*]
  · have hfailed := mt (finished_received_iff_bearable turns).mp hlost
    obtain ⟨hrun, hreceived⟩ := run_append_of_failed hfailed [turn]
    exact ⟨hrun, congrArg (List.map Receipt.turn) hreceived⟩

/-- A client that asks for one permit too many is the last that is heard: no listing is shown any more. -/
theorem limiter_lost :
    let around : Surroundings := ⟨fun _ => .failed "", none, none⟩
    let opened := (around, Message.begun (some (Path.ofString "/tmp")))
    let greedy := answered (.obj [("performance", .obj [("maxConcurrent", .int (2 ^ 61))])])
    let shown := (around, Message.showListing "pkg.Foo")
    ((initial.run [opened]).handle greedy.1 greedy.2).2.finished = false ∧
      (initial.run [opened, greedy]).settings.maxConcurrent = 2 ^ 61 ∧
      (initial.run [opened, greedy]).permits = none ∧
      (initial.handled [opened, greedy, shown]).map (·.2) = [opened.2, greedy.2] := by
  decide +kernel

end Server

end SsaLens
