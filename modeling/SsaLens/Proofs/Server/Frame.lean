import SsaLens.Proofs.Server.Save

/-! # What a message leaves alone

A message changes the fields of the server that it is about. Only a configuration changes the settings and
the permits of the build limiter. While there is a limiter, every message is finished that does not lose it.
-/

namespace SsaLens

/-- The configuration that a message takes over: what the client answers, if it can be read. -/
def Message.configuration? (around : Surroundings) : Message → Option Configuration
  | .ready | .settingsChanged => around.configuration.bind Configuration.ofJson?
  | _ => none

namespace Server

variable {server : Server} {around : Surroundings} {message : Message} {url : Url} {fileName : String}

/-! ## Frames -/

/-- A toggle changes annotations only. -/
theorem toggle_frame (server : Server) (around : Surroundings) (url : Option Url) :
    ∃ annotations, (server.toggle around url).1 = { server with annotations } := by
  unfold toggle toggleFile
  split
  · exact ⟨server.annotations, rfl⟩
  split
  · exact ⟨server.annotations, rfl⟩
  split
  · exact ⟨server.annotations, rfl⟩
  · exact ⟨server.annotations, rfl⟩
  split <;> exact ⟨_, rfl⟩

/-- A save changes views and annotations only. -/
theorem save_frame (server : Server) (around : Surroundings) (url : Url) :
    ∃ views annotations, (server.save around url).1 = { server with views, annotations } := by
  rcases server.save_cases around url with ⟨hserver, -⟩ | ⟨root, fileName, hserver, -⟩
  · exact ⟨server.views, server.annotations, hserver⟩
  · rw [renewAnnotations_eq] at hserver
    exact ⟨_, _, hserver⟩

/-- Showing a listing changes views only. -/
theorem showListing_frame (server : Server) (around : Surroundings) (name : String) :
    ∃ views, (server.showListing around name).1 = { server with views } := by
  have hspec := server.showListing_spec around name
  cases hopened : server.opened? around name with
  | none =>
      simp only [hopened] at hspec
      exact ⟨server.views, hspec.1⟩
  | some held =>
      simp only [hopened] at hspec
      exact ⟨_, hspec.1⟩

/-- A selection changes views only. -/
theorem select_frame (server : Server) (url : Url) (line : UInt32) :
    ∃ views, (server.select url line).1 = { server with views } := by
  unfold select
  split
  · exact ⟨server.views, rfl⟩
  · exact ⟨_, rfl⟩

/-- A configuration changes settings and permits only. -/
theorem configure_frame (server : Server) (answer : Option Json) :
    ∃ settings permits, server.configure answer = { server with settings, permits } := by
  unfold configure
  split
  · exact ⟨server.settings, server.permits, rfl⟩
  · exact ⟨_, _, rfl⟩

/-! ## Configurations -/

section Configured

variable {configuration : Configuration}

/-- An answer that cannot be read changes nothing. -/
theorem configure_of_none {answer : Option Json} (h : answer.bind Configuration.ofJson? = none) :
    server.configure answer = server := by
  rw [configure, h]

theorem configure_of_some {answer : Option Json}
    (h : answer.bind Configuration.ofJson? = some configuration) :
    server.configure answer =
      { server with
        settings := server.settings.merge configuration
        permits := server.permits.bind fun _ => permitsFor (server.settings.merge configuration) } := by
  rw [configure, h]

/-- A message without a configuration changes no settings and no permits. -/
theorem handle_of_unconfigured (h : message.configuration? around = none) :
    (server.handle around message).1.settings = server.settings ∧
      (server.handle around message).1.permits = server.permits := by
  cases message with
  | ready | settingsChanged =>
      have hserver : server.configure around.configuration = server := configure_of_none h
      exact ⟨congrArg (·.settings) hserver, congrArg (·.permits) hserver⟩
  | saved url =>
      obtain ⟨views, annotations, hserver⟩ := server.save_frame around url
      exact ⟨congrArg (·.settings) hserver, congrArg (·.permits) hserver⟩
  | toggleAnnotations url =>
      obtain ⟨annotations, hserver⟩ := server.toggle_frame around url
      exact ⟨congrArg (·.settings) hserver, congrArg (·.permits) hserver⟩
  | showListing name =>
      obtain ⟨views, hserver⟩ := server.showListing_frame around name
      exact ⟨congrArg (·.settings) hserver, congrArg (·.permits) hserver⟩
  | selected url line =>
      obtain ⟨views, hserver⟩ := server.select_frame url line
      exact ⟨congrArg (·.settings) hserver, congrArg (·.permits) hserver⟩
  | begun | opened | changed | closed | codeLens | hints | nothing | shutdown => exact ⟨rfl, rfl⟩

/-- A configuration is merged into the settings, and makes a new limiter. -/
theorem handle_of_configured (h : message.configuration? around = some configuration) :
    (server.handle around message).1 =
      { server with
        settings := server.settings.merge configuration
        permits := server.permits.bind fun _ => permitsFor (server.settings.merge configuration) } := by
  cases message with
  | ready | settingsChanged => exact configure_of_some h
  | _ => simp [Message.configuration?] at h

end Configured

/-! ## Messages that are finished -/

/-- A file of the workspace is switched if there is a limiter. -/
theorem toggle_of_permits {permits : Nat} (around : Surroundings)
    (hfile : server.fileName? url = some fileName) (hpermits : server.permits = some permits) :
    ∃ root, server.root = some root ∧
      (server.toggle around (some url)).1 = (server.toggleFile around root fileName).1 ∧
      (server.toggle around (some url)).2.finished = true := by
  obtain ⟨root, hroot, hname⟩ := Option.bind_eq_some_iff.mp hfile
  refine ⟨root, hroot, ?_⟩
  simp only [toggle, hroot, hname, hpermits, true_and]
  unfold toggleFile
  split <;> rfl

/-- Without permits a toggle does not finish, and changes nothing. -/
theorem toggle_of_permits_none (around : Surroundings) (hfile : server.fileName? url = some fileName)
    (hpermits : server.permits = none) :
    server.toggle around (some url) = (server, { finished := false }) := by
  obtain ⟨root, hroot, hname⟩ := Option.bind_eq_some_iff.mp hfile
  simp only [toggle, hroot, hname, hpermits]

/-- A file outside the workspace has no annotations. -/
theorem toggle_of_outside (around : Surroundings) (h : server.fileName? url = none) :
    (server.toggle around (some url)).1 = server ∧
      (server.toggle around (some url)).2.finished = true := by
  unfold toggle
  cases hroot : server.root with
  | none => exact ⟨rfl, rfl⟩
  | some root =>
      have hname : url.fileName? root = none := by simpa [fileName?, hroot] using h
      simp only [hname, and_self]

/-- A save outside the workspace does nothing. -/
theorem save_of_outside (around : Surroundings) (h : server.fileName? url = none) :
    (server.save around url).1 = server ∧ (server.save around url).2.finished = true := by
  unfold save
  split
  · cases hroot : server.root with
    | none => exact ⟨rfl, rfl⟩
    | some root =>
        have hname : url.fileName? root = none := by simpa [fileName?, hroot] using h
        simp only [hname, and_self]
  · exact ⟨rfl, rfl⟩

/-- With a limiter, a message is finished if it brings no configuration. -/
theorem finished_of_unconfigured {permits : Nat} (hpermits : server.permits = some permits)
    (h : message.configuration? around = none) : (server.handle around message).2.finished = true := by
  cases message with
  | ready | settingsChanged =>
      change server.keepsLimiter (server.configure around.configuration) = true
      rw [configure_of_none h, keepsLimiter, hpermits]
      rfl
  | showListing name =>
      change (server.showListing around name).2.finished = true
      unfold showListing
      cases hroot : server.root with
      | none => dsimp only; split <;> rfl
      | some root =>
          rw [hpermits]
          dsimp only
          split
          · rfl
          · split <;> rfl
  | toggleAnnotations url =>
      cases url with
      | none => rfl
      | some url =>
          cases hfile : server.fileName? url with
          | none => exact (toggle_of_outside around hfile).2
          | some fileName =>
              obtain ⟨-, -, -, hfinished⟩ := toggle_of_permits around hfile hpermits
              exact hfinished
  | saved url =>
      by_cases hgo : url.isGo = true
      · cases hfile : server.fileName? url with
        | none => exact (save_of_outside around hfile).2
        | some fileName =>
            obtain ⟨-, -, -, hfinished⟩ := save_of_permits around hgo hfile hpermits
            exact hfinished
      · change (server.save around url).2.finished = true
        rw [save, if_neg hgo]
  | selected url line =>
      change (server.select url line).2.finished = true
      rw [select]
      split <;> rfl
  | begun | opened | changed | closed | codeLens | hints | nothing | shutdown => rfl

/-- With a limiter, a message is finished exactly if there is one afterwards. -/
theorem finished_iff_of_permits {permits : Nat} (hpermits : server.permits = some permits) :
    (server.handle around message).2.finished = true ↔
      (server.handle around message).1.permits.isSome = true := by
  cases h : message.configuration? around with
  | none =>
      rw [(handle_of_unconfigured h).2, hpermits]
      exact iff_of_true (finished_of_unconfigured hpermits h) rfl
  | some configuration =>
      cases message with
      | ready | settingsChanged =>
          change server.keepsLimiter (server.configure around.configuration) = true ↔ _
          rw [keepsLimiter, hpermits, Option.isNone_some, Bool.false_or]
          rfl
      | _ => simp [Message.configuration?] at h

/-- A server comes to every message of a run with a limiter, because the run ends when it is lost. -/
theorem run_initial_induction {motive : List Receipt → Server → Prop} (start : motive [] initial)
    (step : ∀ receipts receipt permits, receipt.server.permits = some permits →
      motive receipts receipt.server → motive (receipts ++ [receipt]) receipt.step.1)
    (turns : List (Surroundings × Message)) : motive (initial.received turns) (initial.run turns) := by
  refine (run_induction (motive := fun receipts server =>
    (Finished receipts → server.permits.isSome = true) ∧ motive receipts server) initial
    ⟨fun _ => rfl, start⟩ ?_ turns).2
  rintro receipts receipt hfinished ⟨hlimiter, h⟩
  obtain ⟨permits, hpermits⟩ := Option.isSome_iff_exists.mp (hlimiter hfinished)
  refine ⟨fun hall => (finished_iff_of_permits hpermits).mp ?_, step receipts receipt permits hpermits h⟩
  exact hall receipt (List.mem_append_right _ (List.mem_singleton_self _))

/-- Messages that bring no configuration are all handled. -/
theorem handled_of_unconfigured {turns : List (Surroundings × Message)}
    (h : ∀ turn ∈ turns, turn.2.configuration? turn.1 = none) : initial.handled turns = turns := by
  have hfinished : ∀ receipt ∈ initial.received turns,
      receipt.message.configuration? receipt.around = none → receipt.step.2.finished = true := by
    refine run_initial_induction (motive := fun receipts _ => ∀ receipt ∈ receipts,
      receipt.message.configuration? receipt.around = none → receipt.step.2.finished = true)
      (List.forall_mem_nil _) (fun receipts receipt permits hpermits ih => ?_) turns
    exact List.forall_mem_append.mpr
      ⟨ih, List.forall_mem_singleton.mpr (finished_of_unconfigured hpermits)⟩
  exact handled_of_finished fun receipt hreceipt =>
    hfinished receipt hreceipt (h receipt.turn (turn_mem_of_mem_received hreceipt))

end Server

end SsaLens
