import SsaLens.Server

/-! # The run of a server

A server handles the messages of a run one after the other, up to the first that is not finished. As long
as all are finished the run goes on with what comes next; afterwards nothing changes any more. What every
message keeps therefore holds at the end of every run.
-/

namespace SsaLens

/-- A message, with the server that received it and what it saw then. -/
structure Receipt where
  server : Server
  around : Surroundings
  message : Message

namespace Receipt

def step (receipt : Receipt) : Server × Effect := receipt.server.handle receipt.around receipt.message

def turn (receipt : Receipt) : Surroundings × Message := (receipt.around, receipt.message)

end Receipt

namespace Server

/-- The messages that are handled, with the servers that receive them. -/
def received (server : Server) : List (Surroundings × Message) → List Receipt
  | [] => []
  | (around, message) :: rest =>
      let receipt : Receipt := ⟨server, around, message⟩
      receipt :: if receipt.step.2.finished then received receipt.step.1 rest else []

/-- The messages of a run that are handled: all of them, unless the server fails. -/
def handled (server : Server) (turns : List (Surroundings × Message)) : List (Surroundings × Message) :=
  (server.received turns).map Receipt.turn

/-- The server finished all messages that it received. -/
def Finished (receipts : List Receipt) : Prop := ∀ receipt ∈ receipts, receipt.step.2.finished = true

instance (receipts : List Receipt) : Decidable (Finished receipts) :=
  inferInstanceAs (Decidable (∀ receipt ∈ receipts, receipt.step.2.finished = true))

variable {server : Server} {turns : List (Surroundings × Message)} {receipt : Receipt}

/-- After a message that is finished the run goes on. -/
theorem run_cons_of_finished (h : receipt.step.2.finished = true)
    (rest : List (Surroundings × Message)) :
    receipt.server.run (receipt.turn :: rest) = receipt.step.1.run rest ∧
      receipt.server.received (receipt.turn :: rest) = receipt :: receipt.step.1.received rest :=
  ⟨if_pos h, congrArg (receipt :: ·) (if_pos h)⟩

/-- A message that is not finished is the last one. -/
theorem run_cons_of_failed (h : ¬ receipt.step.2.finished = true)
    (rest : List (Surroundings × Message)) :
    receipt.server.run (receipt.turn :: rest) = receipt.step.1 ∧
      receipt.server.received (receipt.turn :: rest) = [receipt] :=
  ⟨if_neg h, congrArg (receipt :: ·) (if_neg h)⟩

/-- A run finishes all its messages exactly if it finishes the first one, and then the others. -/
theorem finished_cons_iff (receipt : Receipt) (rest : List (Surroundings × Message)) :
    Finished (receipt.server.received (receipt.turn :: rest)) ↔
      receipt.step.2.finished = true ∧ Finished (receipt.step.1.received rest) := by
  by_cases h : receipt.step.2.finished = true
  · rw [(run_cons_of_finished h rest).2, Finished, List.forall_mem_cons, Finished]
  · rw [(run_cons_of_failed h rest).2, Finished, List.forall_mem_singleton]
    exact iff_of_false h fun hall => h hall.1

/-- Behind a message that is finished, what is handled is what the server handles then. -/
theorem handled_cons_of_finished (h : receipt.step.2.finished = true)
    (rest : List (Surroundings × Message)) :
    receipt.server.handled (receipt.turn :: rest) = receipt.turn :: receipt.step.1.handled rest :=
  congrArg (List.map Receipt.turn) (run_cons_of_finished h rest).2

/-- Nothing is handled behind a message that is not finished. -/
theorem handled_cons_of_failed (h : ¬ receipt.step.2.finished = true)
    (rest : List (Surroundings × Message)) :
    receipt.server.handled (receipt.turn :: rest) = [receipt.turn] :=
  congrArg (List.map Receipt.turn) (run_cons_of_failed h rest).2

/-- What holds at the start and is kept by every message that comes after finished ones holds at the end
of every run. -/
theorem run_induction {motive : List Receipt → Server → Prop} (server : Server) (start : motive [] server)
    (step : ∀ receipts receipt, Finished receipts → motive receipts receipt.server →
      motive (receipts ++ [receipt]) receipt.step.1)
    (turns : List (Surroundings × Message)) : motive (server.received turns) (server.run turns) := by
  -- some messages may have come before
  suffices hfrom : ∀ receipts server, Finished receipts → motive receipts server →
      motive (receipts ++ server.received turns) (server.run turns) from
    hfrom [] server (List.forall_mem_nil _) start
  clear start
  induction turns with
  | nil =>
      intro receipts server _ h
      rwa [received, List.append_nil]
  | cons turn rest ih =>
      intro receipts server hfinished h
      let receipt : Receipt := ⟨server, turn.1, turn.2⟩
      have hnext : motive (receipts ++ [receipt]) receipt.step.1 := step receipts receipt hfinished h
      by_cases hlast : receipt.step.2.finished = true
      · obtain ⟨hrun, hreceived⟩ := run_cons_of_finished hlast rest
        have hlater := ih (receipts ++ [receipt]) receipt.step.1
          (List.forall_mem_append.mpr ⟨hfinished, List.forall_mem_singleton.mpr hlast⟩) hnext
        rw [List.append_assoc, List.singleton_append] at hlater
        exact hreceived ▸ hrun ▸ hlater
      · obtain ⟨hrun, hreceived⟩ := run_cons_of_failed hlast rest
        exact hreceived ▸ hrun ▸ hnext

/-- A run whose messages were all finished goes on with what comes later. -/
theorem run_append_of_finished (h : Finished (server.received turns))
    (later : List (Surroundings × Message)) :
    server.run (turns ++ later) = (server.run turns).run later ∧
      server.received (turns ++ later) = server.received turns ++ (server.run turns).received later := by
  induction turns generalizing server with
  | nil => exact ⟨rfl, rfl⟩
  | cons turn rest ih =>
      let receipt : Receipt := ⟨server, turn.1, turn.2⟩
      obtain ⟨hfirst, hrest⟩ := (finished_cons_iff receipt rest).mp h
      obtain ⟨hrun, hreceived⟩ := run_cons_of_finished hfirst rest
      obtain ⟨hlong, hlongReceived⟩ := run_cons_of_finished hfirst (rest ++ later)
      obtain ⟨ihrun, ihreceived⟩ := ih hrest
      refine ⟨(hlong.trans ihrun).trans (congrArg (·.run later) hrun.symm), ?_⟩
      refine hlongReceived.trans ?_
      change _ = receipt.server.received (receipt.turn :: rest) ++
        (receipt.server.run (receipt.turn :: rest)).received later
      rw [hreceived, hrun, ihreceived, List.cons_append]

/-- After a message that was not finished nothing is handled. -/
theorem run_append_of_failed (h : ¬ Finished (server.received turns))
    (later : List (Surroundings × Message)) :
    server.run (turns ++ later) = server.run turns ∧
      server.received (turns ++ later) = server.received turns := by
  induction turns generalizing server with
  | nil => exact absurd (List.forall_mem_nil _) h
  | cons turn rest ih =>
      let receipt : Receipt := ⟨server, turn.1, turn.2⟩
      by_cases hfirst : receipt.step.2.finished = true
      · obtain ⟨hrun, hreceived⟩ := run_cons_of_finished hfirst rest
        obtain ⟨hlong, hlongReceived⟩ := run_cons_of_finished hfirst (rest ++ later)
        have hrest : ¬ Finished (receipt.step.1.received rest) := fun hall =>
          h ((finished_cons_iff receipt rest).mpr ⟨hfirst, hall⟩)
        obtain ⟨ihrun, ihreceived⟩ := ih hrest
        exact ⟨(hlong.trans ihrun).trans hrun.symm,
          (hlongReceived.trans (congrArg (receipt :: ·) ihreceived)).trans hreceived.symm⟩
      · obtain ⟨hrun, hreceived⟩ := run_cons_of_failed hfirst rest
        obtain ⟨hlong, hlongReceived⟩ := run_cons_of_failed hfirst (rest ++ later)
        exact ⟨hlong.trans hrun.symm, hlongReceived.trans hreceived.symm⟩

/-- What is handled is a beginning of what was sent. -/
theorem handled_begins (server : Server) (turns : List (Surroundings × Message)) :
    server.handled turns <+: turns := by
  induction turns generalizing server with
  | nil => exact List.prefix_refl []
  | cons turn rest ih =>
      let receipt : Receipt := ⟨server, turn.1, turn.2⟩
      by_cases hfirst : receipt.step.2.finished = true
      · obtain ⟨later, hlater⟩ := ih receipt.step.1
        have hhandled : server.handled (turn :: rest) = turn :: receipt.step.1.handled rest :=
          handled_cons_of_finished hfirst rest
        refine ⟨later, ?_⟩
        rw [hhandled, List.cons_append, hlater]
      · have hhandled : server.handled (turn :: rest) = [turn] := handled_cons_of_failed hfirst rest
        refine ⟨rest, ?_⟩
        rw [hhandled, List.singleton_append]

/-- The first message is always handled. -/
theorem handled_single (server : Server) (turn : Surroundings × Message) :
    server.handled [turn] = [turn] := by
  let receipt : Receipt := ⟨server, turn.1, turn.2⟩
  by_cases hfinished : receipt.step.2.finished = true
  · exact handled_cons_of_finished hfinished []
  · exact handled_cons_of_failed hfinished []

/-- A message that was received is one that was sent. -/
theorem turn_mem_of_mem_received (h : receipt ∈ server.received turns) : receipt.turn ∈ turns :=
  (handled_begins server turns).subset (List.mem_map_of_mem h)

/-- A server that finishes all messages that it receives receives all of them. -/
theorem handled_of_finished (h : Finished (server.received turns)) : server.handled turns = turns := by
  induction turns generalizing server with
  | nil => rfl
  | cons turn rest ih =>
      let receipt : Receipt := ⟨server, turn.1, turn.2⟩
      obtain ⟨hfirst, hrest⟩ := (finished_cons_iff receipt rest).mp h
      have hhandled : server.handled (turn :: rest) = turn :: receipt.step.1.handled rest :=
        handled_cons_of_finished hfirst rest
      rw [hhandled, ih hrest]

end Server

end SsaLens
