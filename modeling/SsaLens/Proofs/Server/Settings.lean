import SsaLens.Proofs.Server.History

/-! # The settings of a server

The settings are told by the configurations that the client answered, as far as they can be read. Whether
there are hints is decided by the last one alone. For the compiler, its variables and the limit of builds,
the last one counts that gives them. So what is no longer configured stays as it was, and the settings are
those of a server that was told only the last configuration just if nothing of that kind is left over.
-/

namespace SsaLens

namespace Configuration

/-- The compiler that a configuration names. A blank name counts as none. -/
def compiler? (configuration : Configuration) : Option String :=
  configuration.binary.filter fun name => Text.trimmed name ≠ ""

/-- The limit that a configuration gives. Zero counts as none. -/
def limit? (configuration : Configuration) : Option Nat := configuration.maxConcurrent.filter (0 < ·)

/-- What the last configuration that gives a setting says about it. -/
def last? {α : Type} (setting : Configuration → Option α) (configurations : List Configuration) :
    Option α :=
  configurations.reverse.findSome? setting

/-- The last value of a setting is that of the last section, if this has one. -/
theorem last?_concat {α : Type} (setting : Configuration → Option α)
    (configurations : List Configuration) (configuration : Configuration) :
    last? setting (configurations ++ [configuration]) =
      (setting configuration).or (last? setting configurations) :=
  findSome?_reverse_concat setting configurations configuration

/-- Something else steps in only where a setting is not given. -/
theorem or_eq_self_iff {α : Type} {given left : Option α} :
    given.or left = given ↔ (given = none → left = none) := by
  cases given <;> simp

/-- What was given before is no matter exactly if something is given, or it is the default. -/
theorem getD_or_eq_iff {α : Type} {given left : Option α} {value : α} :
    (given.or left).getD value = given.getD value ↔ (given = none → left.getD value = value) := by
  cases given <;> simp

end Configuration

open SsaLens.Configuration (last? last?_concat compiler? limit?)

namespace Settings

/-- The settings after configurations, one after the other. -/
def after (configurations : List Configuration) : Settings := configurations.foldl merge initial

theorem after_concat (configurations : List Configuration) (configuration : Configuration) :
    after (configurations ++ [configuration]) = (after configurations).merge configuration :=
  List.foldl_concat ..

theorem merge_eq (settings : Settings) (configuration : Configuration) :
    settings.merge configuration =
      ⟨configuration.compiler?.or settings.binary,
        configuration.environment.getD settings.environment,
        configuration.hintsEnabled.getD true, configuration.limit?.getD settings.maxConcurrent⟩ := by
  rw [merge, Option.orElse_eq_orElse, Option.orElse_eq_or]
  rfl

/-- Each setting is the last one given, but the hints are those of the last section only. -/
theorem after_eq (configurations : List Configuration) :
    after configurations =
      ⟨last? compiler? configurations,
        (last? Configuration.environment configurations).getD ∅,
        (configurations.getLast?.bind Configuration.hintsEnabled).getD true,
        (last? limit? configurations).getD 2⟩ := by
  induction configurations using List.reverseRecOn with
  | nil => rfl
  | append_singleton configurations configuration ih =>
      simp only [after_concat, ih, merge_eq, last?_concat, List.getLast?_concat, Option.bind_some,
        Option.getD_or]

theorem toolchain_eq (settings : Settings) (named : Option String) :
    settings.toolchain named =
      ⟨settings.binary.getD (Toolchain.ofVariable named).binary, settings.environment.entries⟩ := by
  have hvariable : (Toolchain.ofVariable named).environment = [] := by
    unfold Toolchain.ofVariable
    split <;> rfl
  cases hbinary : settings.binary <;>
    simp [toolchain, hbinary, Toolchain.withBinary, Toolchain.withEnvironment, hvariable]

/-- A compiler that the environment names instead of another one. -/
theorem binary_ofVariable_ne (name : String) :
    (Toolchain.ofVariable (some (name ++ "+"))).binary ≠ name := by
  have hne : name ++ "+" ≠ "" := by simp
  have hnamed : (some (name ++ "+")).filter (· ≠ "") = some (name ++ "+") := by simp [hne]
  rw [Toolchain.ofVariable, hnamed]
  intro heq
  have hlength := congrArg String.length heq
  simp at hlength

/-- Settings make the same toolchains in all environments only if compiler and variables are the same. -/
theorem forall_toolchain_eq_iff {first second : Settings} :
    (∀ named, first.toolchain named = second.toolchain named) ↔
      first.binary = second.binary ∧ first.environment = second.environment := by
  simp only [toolchain_eq, Toolchain.mk.injEq]
  constructor
  · intro h
    refine ⟨?_, SortedMap.ext_entries (h none).2⟩
    cases hfirst : first.binary with
    | none =>
        cases hsecond : second.binary with
        | none => rfl
        | some name =>
            have hname := (h (some (name ++ "+"))).1
            rw [hfirst, hsecond] at hname
            exact absurd hname (binary_ofVariable_ne name)
    | some name =>
        cases hsecond : second.binary with
        | none =>
            have hname := (h (some (name ++ "+"))).1
            rw [hfirst, hsecond] at hname
            exact absurd hname.symm (binary_ofVariable_ne name)
        | some other =>
            have hname := (h none).1
            rw [hfirst, hsecond] at hname
            exact congrArg some hname
  · rintro ⟨hbinary, henvironment⟩ named
    rw [hbinary, henvironment]
    exact ⟨rfl, rfl⟩

end Settings

namespace Server

variable {server : Server} {around : Surroundings} {message : Message} {configuration : Configuration}

/-- The configurations that messages bring. -/
def configurations (turns : List (Surroundings × Message)) : List Configuration :=
  turns.filterMap fun turn => turn.2.configuration? turn.1

theorem configurations_concat (turns : List (Surroundings × Message))
    (turn : Surroundings × Message) :
    configurations (turns ++ [turn]) =
      configurations turns ++ (turn.2.configuration? turn.1).toList := by
  rw [configurations, List.filterMap_append, ← configurations]
  cases h : turn.2.configuration? turn.1 <;> simp [h]

/-- The settings of a server are those after the configurations that it took over. -/
theorem settings_run (turns : List (Surroundings × Message)) :
    (initial.run turns).settings = Settings.after (configurations (initial.handled turns)) := by
  refine run_induction (motive := fun receipts server =>
    server.settings = Settings.after (configurations (receipts.map Receipt.turn)))
    initial rfl (fun receipts receipt _ ih => ?_) turns
  rw [List.map_append, List.map_singleton, configurations_concat, Receipt.step]
  cases h : receipt.message.configuration? receipt.around with
  | none => rw [(handle_of_unconfigured h).1, ih, Receipt.turn, h, Option.toList_none, List.append_nil]
  | some configuration =>
      rw [handle_of_configured h, ih, Receipt.turn, h, Option.toList_some, Settings.after_concat]

/-- The toolchain has the binary and the environment of the settings, and the name of the surroundings
only without a binary. -/
theorem toolchain_eq_of_settings (around : Surroundings) :
    server.toolchain around =
      ⟨server.settings.binary.getD (Toolchain.ofVariable around.compilerName).binary,
        server.settings.environment.entries⟩ :=
  Settings.toolchain_eq server.settings around.compilerName

/-- Two servers always use the same toolchain exactly if these two settings are the same. -/
theorem forall_toolchain_eq_iff_settings {other : Server} :
    (∀ around, server.toolchain around = other.toolchain around) ↔
      server.settings.binary = other.settings.binary ∧
        server.settings.environment = other.settings.environment := by
  rw [← Settings.forall_toolchain_eq_iff]
  exact ⟨fun h named => h ⟨fun _ => .failed "", named, none⟩, fun h around => h around.compilerName⟩

/-- After a run the settings are those of the latest section, and where it has none those given last
before. -/
theorem settings_of_latest {turns : List (Surroundings × Message)} {earlier : List Configuration}
    {latest : Configuration} (h : configurations (initial.handled turns) = earlier ++ [latest]) :
    (initial.run turns).settings =
      ⟨latest.compiler?.or (last? compiler? earlier),
        (latest.environment.or (last? Configuration.environment earlier)).getD ∅,
        latest.hintsEnabled.getD true,
        (latest.limit?.or (last? limit? earlier)).getD 2⟩ := by
  rw [settings_run, h, Settings.after_eq]
  simp only [last?_concat, List.getLast?_concat, Option.bind_some]

/-- What is left of earlier configurations when the latest one is taken over, and when it makes a
difference to a server that has received only that one: the compiler and its variables are the same
exactly if no earlier compiler and no earlier variables stay, the hints are the same, and the limit is the
same exactly if no earlier one stays other than that of a new server. -/
theorem run_configured (turns : List (Surroundings × Message)) (earlier : List Configuration)
    (latest : Configuration) (turn : Surroundings × Message)
    (hconfigurations : configurations (initial.handled turns) = earlier ++ [latest])
    (hlatest : turn.2.configuration? turn.1 = some latest) :
    let server := initial.run turns
    let fresh := initial.run [turn]
    (∀ around, server.toolchain around =
        ⟨(latest.compiler?.or (last? compiler? earlier)).getD
            (Toolchain.ofVariable around.compilerName).binary,
          ((latest.environment.or (last? Configuration.environment earlier)).getD ∅).entries⟩) ∧
      ((∀ around, server.toolchain around = fresh.toolchain around) ↔
        (latest.compiler? = none → last? compiler? earlier = none) ∧
          (latest.environment = none → (last? Configuration.environment earlier).getD ∅ = ∅)) ∧
      server.settings.hintsEnabled = fresh.settings.hintsEnabled ∧
      server.settings.maxConcurrent = (latest.limit?.or (last? limit? earlier)).getD 2 ∧
      (server.settings.maxConcurrent = fresh.settings.maxConcurrent ↔
        (latest.limit? = none → (last? limit? earlier).getD 2 = 2)) := by
  intro server fresh
  have hsettings : server.settings = _ := settings_of_latest hconfigurations
  have hfresh : fresh.settings =
      ⟨latest.compiler?, latest.environment.getD ∅, latest.hintsEnabled.getD true,
        latest.limit?.getD 2⟩ := by
    have hsingle : configurations (initial.handled [turn]) = [] ++ [latest] := by
      simp [handled_single, configurations, hlatest]
    have halone : fresh.settings = _ := settings_of_latest hsingle
    simpa only [last?, List.reverse_nil, List.findSome?_nil, Option.or_none] using halone
  refine ⟨fun around => ?_, ?_, ?_, ?_, ?_⟩
  · rw [toolchain_eq_of_settings, hsettings]
  · rw [forall_toolchain_eq_iff_settings, hsettings, hfresh]
    exact and_congr Configuration.or_eq_self_iff Configuration.getD_or_eq_iff
  · rw [hsettings, hfresh]
  · rw [hsettings]
  · rw [hsettings, hfresh]
    exact Configuration.getD_or_eq_iff

/-! ## A compiler that is no longer configured

A client names a compiler with a variable. Then it names a blank one and a limit of zero, and at last it
answers something that is no configuration. -/

/-- The client answers when its settings have changed. -/
def answered (answer : Json) : Surroundings × Message :=
  (⟨fun _ => .failed "", none, some answer⟩, .settingsChanged)

def namedCompiler : Surroundings × Message :=
  answered (.obj [("goBinary", .str "go-alt"), ("env", .obj [("T_A", .str "1")])])

def blankCompiler : Surroundings × Message :=
  answered (.obj [("goBinary", .str " "), ("performance", .obj [("maxConcurrent", .int 0)])])

def noConfiguration : Surroundings × Message := answered (.obj [("goBinary", .int 1)])

theorem run_configured_blank :
    let turns := [namedCompiler, blankCompiler, noConfiguration]
    configurations (initial.handled turns) =
        [⟨some "go-alt", some (SortedMap.insert ∅ "T_A" "1"), none, none⟩] ++
          [⟨some " ", none, none, some 0⟩] ∧
      blankCompiler.2.configuration? blankCompiler.1 = some ⟨some " ", none, none, some 0⟩ ∧
      (initial.run turns).toolchain blankCompiler.1 = ⟨"go-alt", [("T_A", "1")]⟩ := by
  intro turns
  have hconfigurations : configurations (initial.handled turns) =
      [⟨some "go-alt", some (SortedMap.insert ∅ "T_A" "1"), none, none⟩] ++
        [⟨some " ", none, none, some 0⟩] := by decide +kernel
  have hlatest : blankCompiler.2.configuration? blankCompiler.1 =
      some ⟨some " ", none, none, some 0⟩ := by decide +kernel
  obtain ⟨htoolchain, -⟩ := run_configured turns _ _ blankCompiler hconfigurations hlatest
  refine ⟨hconfigurations, hlatest, (htoolchain blankCompiler.1).trans ?_⟩
  decide +kernel

/-- The compiler stays although it is not named any more; a server that has received only the latest
configuration starts another one. -/
theorem compiler_kept :
    (blankCompiler.2.configuration? blankCompiler.1).bind compiler? = none ∧
      ((initial.run [namedCompiler, blankCompiler]).toolchain blankCompiler.1).binary = "go-alt" ∧
      ((initial.run [blankCompiler]).toolchain blankCompiler.1).binary = "go" := by
  decide +kernel

end Server

end SsaLens
