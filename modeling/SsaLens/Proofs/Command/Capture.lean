import SsaLens.Command.Run
import SsaLens.Proofs.Build.Lookup
import SsaLens.Proofs.Dump.FileName
import SsaLens.Proofs.Toolchain

/-! # Captured builds

What a build prints can be captured in a file and given to a later command. A command on captured
builds ends as the command that makes them.
-/

namespace SsaLens

open Text (NulFree)

/-- What a build is made for. -/
inductive Build.Kind where
  | dump
  | report
  deriving DecidableEq, Repr

def Build.kind : Build → Build.Kind
  | dump .. => .dump
  | report .. => .report

namespace Host

variable {host : Host}

/-- The compiler can be started for a build and prints a text, with whatever exit status. -/
def Prints (host : Host) (build : Build) (text : String) : Prop :=
  ∃ status, host.machine (host.toolchain.invocation build) = .ran (Text.Utf8.encode text) status

/-- A file holds a text. -/
def Holds (host : Host) (path text : String) : Prop :=
  NulFree path ∧ host.file path = .ok (Text.Utf8.encode text)

/-- A file that holds the bytes of a text is read as the text. -/
theorem text_of_holds {path text : String} (h : host.Holds path text) : host.text path = .ok text := by
  have hname : ¬ path.toList.contains '\x00' = true := by simpa [NulFree] using h.1
  rw [Host.text, if_neg hname, h.2]
  simp only [bind, Except.bind, Text.Utf8.text?_encode]

/-- A build that holds no NUL character is started, and its output is read as it was printed. -/
theorem compiler_of_prints {build : Build} {text : String}
    (htoolchain : ∀ text ∈ host.toolchain.texts, NulFree text)
    (hbuild : ∀ text ∈ build.texts, NulFree text) (h : host.Prints build text) :
    ∃ status, host.compiler build = .printed text status := by
  obtain ⟨status, hran⟩ := h
  exact ⟨status, Toolchain.compiler_of_ran htoolchain hbuild hran⟩

end Host

/-! ## File names -/

section FileNames

open scoped List

variable {text : String} {name : List Char}

/-- What is taken out of a text without a NUL character has none either. -/
theorem nulFree_ofList_slash (htext : NulFree text) (hname : name <+ text.toList) :
    NulFree (String.ofList ('/' :: name)) := by
  rw [NulFree, String.toList_ofList, List.mem_cons]
  exact not_or.mpr ⟨by decide, fun hmem => htext (hname.subset hmem)⟩

/-- The workspace name of a file is a slash and some characters of what it is called. -/
theorem workspaceName_eq (file : String) :
    ∃ name, workspaceName file = String.ofList ('/' :: name) ∧ name <+ file.toList := by
  let given := Text.trim file.toList
  let relative := (Text.after? ['.', '/'] given).getD given
  have hrelative : relative <+ file.toList := by
    refine List.Sublist.trans ?_ (Text.trim_sublist file.toList)
    cases hafter : Text.after? ['.', '/'] given with
    | none => simp [relative, hafter, given]
    | some rest =>
        have hgiven : given = ['.', '/'] ++ rest := Text.after?_eq_some_iff.mp hafter
        change (Text.after? ['.', '/'] given).getD given <+ given
        rw [hafter, Option.getD_some, hgiven]
        exact List.sublist_append_right _ rest
  by_cases hrooted : relative.head? = some '/'
  · obtain ⟨name, hname⟩ := List.head?_eq_some_iff.mp hrooted
    refine ⟨name, ?_, (List.sublist_cons_self '/' name).trans (hname ▸ hrelative)⟩
    rw [← hname]
    exact if_pos hrooted
  · exact ⟨relative, if_neg hrooted, hrelative⟩

theorem workspaceName_ne_empty (file : String) : workspaceName file ≠ "" := by
  obtain ⟨name, hname, -⟩ := workspaceName_eq file
  exact hname ▸ Text.ofList_slash_ne_empty name

/-- The workspace name of a file has no NUL character if the file has none. -/
theorem nulFree_workspaceName {file : String} (h : NulFree file) : NulFree (workspaceName file) := by
  obtain ⟨name, hname, hpart⟩ := workspaceName_eq file
  exact hname ▸ nulFree_ofList_slash h hpart

/-- The file that a dump names has no NUL character if the output has none. -/
theorem Dump.nulFree_fileName {output function : String} {dump : Dump} (h : NulFree output)
    (hextract : Dump.extract output function = some dump) : NulFree dump.fileName := by
  obtain ⟨name, hname, hpart⟩ := Dump.fileName_of_extract hextract
  exact hname ▸ nulFree_ofList_slash h hpart

theorem nulFree_trimmed (h : NulFree text) : NulFree (Text.trimmed text) := by
  rw [NulFree, Text.trimmed, String.toList_ofList]
  exact fun hmem => h ((Text.trim_sublist text.toList).subset hmem)

end FileNames

/-! ## Listings -/

namespace SsaCommand

variable {command : SsaCommand} {host : Host} {function path output : String} {dump : Dump}

/-- A command finds the dump, then the report, and prints both. -/
theorem result_run (hfunction : Text.trimmed command.function ≠ "") :
    (command.run host).result =
      (command.dump host (Text.trimmed command.function)).value.bind fun dump =>
        (command.report host dump).value.map fun report =>
          command.print (command.view (Text.trimmed command.function) dump report) := by
  simp only [run, if_neg hfunction]
  cases (command.dump host (Text.trimmed command.function)).value with
  | error failure => rfl
  | ok dump =>
      dsimp only [Except.bind]
      cases (command.report host dump).value <;> rfl

/-- The builds for the dump are builds of the command. -/
theorem builds_dump_subset (hfunction : Text.trimmed command.function ≠ "") :
    (command.dump host (Text.trimmed command.function)).builds ⊆ (command.run host).builds := by
  simp only [run, if_neg hfunction]
  cases (command.dump host (Text.trimmed command.function)).value with
  | error failure => exact List.Subset.refl _
  | ok dump =>
      dsimp only
      cases (command.report host dump).value <;> exact List.subset_append_left _ _

/-- The builds for the report are builds of the command. -/
theorem builds_report_subset (hfunction : Text.trimmed command.function ≠ "")
    (hdump : (command.dump host (Text.trimmed command.function)).value = .ok dump) :
    (command.report host dump).builds ⊆ (command.run host).builds := by
  simp only [run, if_neg hfunction, hdump]
  cases (command.report host dump).value <;> exact List.subset_append_right _ _

/-- From a captured output, the dump is looked for in the text of the file. -/
theorem dump_of_input (hinput : command.input = some path) (hpath : host.text path = .ok output) :
    (command.dump host function).value =
      (Compiler.loadDump.found function output).mapError Failure.explorer := by
  simp only [dump, hinput, hpath, Traced.value_pure, Except.mapError, bind, Except.bind,
    Compiler.loadDump.found]
  cases Dump.extract output function <;> rfl

/-- Without a captured output, the dump is looked for in what its build prints. -/
theorem dump_of_build (hinput : command.input = none)
    (hdirectory : command.directory.getD host.directory ≠ "") {status : Nat}
    (hbuild : host.compiler (.dump (command.directory.getD host.directory) function) =
      .printed output status) :
    (command.dump host function).value =
      (Compiler.loadDump.found function output).mapError Failure.explorer := by
  simp only [dump, hinput, Compiler.loadDump_of_printed hdirectory hbuild]
  rfl

/-- Without a captured output, the dump of the function is built. -/
theorem builds_dump (hinput : command.input = none)
    (hdirectory : command.directory.getD host.directory ≠ "") :
    (command.dump host function).builds =
      [(.dump (command.directory.getD host.directory) function,
        host.compiler (.dump (command.directory.getD host.directory) function))] := by
  simp only [dump, hinput, Traced.builds_bind, Compiler.builds_loadDump hdirectory]
  rfl

/-- A listing without verdicts has an empty report. -/
theorem report_of_unwanted (hunwanted : command.noDecisions = true) :
    (command.report host dump).value = .ok ∅ := by
  rw [report, if_pos hunwanted]
  rfl

/-- With a captured log, the report is parsed from the text of the file. -/
theorem report_of_decisions (hwanted : ¬ command.noDecisions = true)
    (hdecisions : command.decisions = some path) (hpath : host.text path = .ok output) :
    (command.report host dump).value = .ok (Report.parse output) := by
  simp only [report, if_neg hwanted, hdecisions, hpath]
  rfl

theorem report_of_build (hwanted : ¬ command.noDecisions = true) (hinput : command.input = none)
    (hdecisions : command.decisions = none) (hdirectory : command.directory.getD host.directory ≠ "")
    (hfileName : dump.fileName ≠ "") {status : Nat}
    (hbuild : host.compiler (.report (command.directory.getD host.directory) dump.fileName) =
      .printed output status) :
    (command.report host dump).value = .ok (Report.parse output) := by
  simp only [report, if_neg hwanted, hinput, hdecisions,
    Compiler.loadReport_of_printed hdirectory hfileName hbuild]
  rfl

/-- Without a captured output and a captured log, the report of the file is built. -/
theorem builds_report (hwanted : ¬ command.noDecisions = true) (hinput : command.input = none)
    (hdecisions : command.decisions = none) (hdirectory : command.directory.getD host.directory ≠ "")
    (hfileName : dump.fileName ≠ "") :
    (command.report host dump).builds =
      [(.report (command.directory.getD host.directory) dump.fileName,
        host.compiler (.report (command.directory.getD host.directory) dump.fileName))] := by
  simp only [report, if_neg hwanted, hinput, hdecisions, Traced.builds_bind,
    Compiler.builds_loadReport hdirectory hfileName]
  rfl

end SsaCommand

/-! ## Reports -/

namespace InlineCommand

variable {command : InlineCommand} {host : Host} {path output : String}

/-- With a captured log, the report of a file is parsed from its text. -/
theorem report_of_input (hinput : command.input = some path) (hpath : host.text path = .ok output) :
    (command.report host).value = .ok (Report.parse output) := by
  simp only [report, hinput, hpath]
  rfl

theorem report_of_build (hinput : command.input = none)
    (hdirectory : command.directory.getD host.directory ≠ "") {status : Nat}
    (hbuild : host.compiler (.report (command.directory.getD host.directory)
      (workspaceName command.file)) = .printed output status) :
    (command.report host).value = .ok (Report.parse output) := by
  simp only [report, hinput,
    Compiler.loadReport_of_printed hdirectory (workspaceName_ne_empty command.file) hbuild]
  rfl

/-- Without a captured log, the report of the file is built. -/
theorem builds_run (hinput : command.input = none)
    (hdirectory : command.directory.getD host.directory ≠ "") :
    (command.run host).builds =
      [(.report (command.directory.getD host.directory) (workspaceName command.file),
        host.compiler (.report (command.directory.getD host.directory)
          (workspaceName command.file)))] := by
  simp only [run, report, hinput, Traced.builds_bind,
    Compiler.builds_loadReport hdirectory (workspaceName_ne_empty command.file)]
  rfl

end InlineCommand

/-! ## Commands -/

namespace Command

/-- The directory that a command builds in. -/
def directory (host : Host) : Command → String
  | ssa command => command.directory.getD host.directory
  | inline command => command.directory.getD host.directory

/-- What a command is about, as it is given: a function or a file. -/
def subject : Command → String
  | ssa command => command.function
  | inline command => command.file

/-- What a command makes builds for. -/
def kinds : Command → List Build.Kind
  | ssa command => if command.noDecisions then [.dump] else [.dump, .report]
  | inline _ => [.report]

/-- A command that reads captured builds. -/
def captured (path : Build.Kind → String) : Command → Command
  | ssa command =>
      ssa { command with
        input := some (path .dump)
        decisions := if command.noDecisions then none else some (path .report) }
  | inline command => inline { command with input := some (path .report) }

/-- A command reads no captured builds, and every build that it makes can be started and prints a given
text. Nothing that the operating system is handed on the way holds a NUL. -/
structure Live (host : Host) (log : Build.Kind → String) (command : Command) : Prop where
  logs_nil : command.logs = []
  directory_ne_empty : command.directory host ≠ ""
  nulFree : ∀ text ∈ command.directory host :: command.subject :: host.toolchain.texts, NulFree text
  nulFree_log : ∀ kind, NulFree (log kind)
  prints : ∀ entry ∈ (command.run host).builds, host.Prints entry.1 (log entry.1.kind)

namespace Live

variable {host : Host} {log : Build.Kind → String} {command : Command}

theorem nulFree_directory (h : command.Live host log) : NulFree (command.directory host) :=
  h.nulFree _ List.mem_cons_self

theorem nulFree_subject (h : command.Live host log) : NulFree command.subject :=
  h.nulFree _ (List.mem_cons_of_mem _ List.mem_cons_self)

theorem nulFree_toolchain (h : command.Live host log) : ∀ text ∈ host.toolchain.texts, NulFree text :=
  fun text htext => h.nulFree text (List.mem_cons_of_mem _ (List.mem_cons_of_mem _ htext))

theorem nulFree_pair (h : command.Live host log) {name : String} (hname : NulFree name) :
    ∀ text ∈ [command.directory host, name], NulFree text :=
  List.forall_mem_cons.mpr ⟨h.nulFree_directory, List.forall_mem_singleton.mpr hname⟩

/-- A build that the command makes prints what is given for it. -/
theorem compiler_of_mem (h : command.Live host log) {build : Build} {outcome : Outcome}
    (hmade : (build, outcome) ∈ (command.run host).builds)
    (hbuild : ∀ text ∈ build.texts, NulFree text) :
    ∃ status, host.compiler build = .printed (log build.kind) status :=
  Host.compiler_of_prints h.nulFree_toolchain hbuild (h.prints _ hmade)

end Live

section Agreement

variable {host : Host} {log path : Build.Kind → String}

/-- A listing that is built is looked for in what the build prints. -/
theorem dump_of_live {command : SsaCommand} (hlive : (ssa command).Live host log)
    (hfunction : Text.trimmed command.function ≠ "") :
    (command.dump host (Text.trimmed command.function)).value =
      (Compiler.loadDump.found (Text.trimmed command.function) (log .dump)).mapError
        Failure.explorer := by
  obtain ⟨hinput, -⟩ := List.append_eq_nil_iff.mp hlive.logs_nil
  have hinput : command.input = none := Option.toList_eq_nil_iff.mp hinput
  have hmade := SsaCommand.builds_dump_subset hfunction
    (SsaCommand.builds_dump hinput hlive.directory_ne_empty ▸ List.mem_singleton_self _)
  obtain ⟨status, hprinted⟩ :=
    hlive.compiler_of_mem hmade (hlive.nulFree_pair (nulFree_trimmed hlive.nulFree_subject))
  exact SsaCommand.dump_of_build hinput hlive.directory_ne_empty hprinted

/-- A live listing has the report that is parsed from what the build printed. -/
theorem report_of_live {command : SsaCommand} {dump : Dump} (hlive : (ssa command).Live host log)
    (hfunction : Text.trimmed command.function ≠ "")
    (hdump : (command.dump host (Text.trimmed command.function)).value = .ok dump)
    (hwanted : ¬ command.noDecisions = true) :
    (command.report host dump).value = .ok (Report.parse (log .report)) := by
  obtain ⟨hinput, hdecisions⟩ := List.append_eq_nil_iff.mp hlive.logs_nil
  have hinput : command.input = none := Option.toList_eq_nil_iff.mp hinput
  have hdecisions : command.decisions = none := Option.toList_eq_nil_iff.mp hdecisions
  have hextract : Dump.extract (log .dump) (Text.trimmed command.function) = some dump := by
    rw [dump_of_live hlive hfunction] at hdump
    refine Compiler.found_eq_ok_iff.mp ?_
    cases hfound : Compiler.loadDump.found (Text.trimmed command.function) (log .dump) with
    | error error => simp [hfound, Except.mapError] at hdump
    | ok found => simpa [hfound, Except.mapError] using hdump
  have hfileName := Dump.fileName_ne_empty hextract
  have hmade := SsaCommand.builds_report_subset hfunction hdump
    (SsaCommand.builds_report hwanted hinput hdecisions hlive.directory_ne_empty hfileName ▸
      List.mem_singleton_self _)
  have hnulFree : NulFree dump.fileName := Dump.nulFree_fileName (hlive.nulFree_log .dump) hextract
  obtain ⟨status, hprinted⟩ := hlive.compiler_of_mem hmade (hlive.nulFree_pair hnulFree)
  exact SsaCommand.report_of_build hwanted hinput hdecisions hlive.directory_ne_empty hfileName hprinted

/-- A listing from captured outputs is the live one. -/
theorem ssa_captured {command : SsaCommand} (hlive : (ssa command).Live host log)
    (hfiles : ∀ kind ∈ (ssa command).kinds, host.Holds (path kind) (log kind)) :
    (((ssa command).captured path).run host).result = ((ssa command).run host).result := by
  let captured : SsaCommand := { command with
    input := some (path .dump)
    decisions := if command.noDecisions then none else some (path .report) }
  change (captured.run host).result = (command.run host).result
  by_cases hfunction : Text.trimmed command.function = ""
  · -- a blank function asks for nothing
    simp only [SsaCommand.run, captured, if_pos hfunction]
  have hpath : host.text (path .dump) = .ok (log .dump) :=
    Host.text_of_holds (hfiles .dump (by rw [kinds]; split <;> exact List.mem_cons_self))
  have hdumps : (captured.dump host (Text.trimmed command.function)).value =
      (command.dump host (Text.trimmed command.function)).value := by
    rw [dump_of_live hlive hfunction]
    exact SsaCommand.dump_of_input rfl hpath
  -- both print in the same way what they find
  have hcaptured : (captured.run host).result =
      (captured.dump host (Text.trimmed command.function)).value.bind fun dump =>
        (captured.report host dump).value.map fun report =>
          command.print (command.view (Text.trimmed command.function) dump report) :=
    SsaCommand.result_run hfunction
  rw [hcaptured, SsaCommand.result_run hfunction, hdumps]
  cases hdump : (command.dump host (Text.trimmed command.function)).value with
  | error failure => rfl
  | ok dump =>
      have hreports : (captured.report host dump).value = (command.report host dump).value := by
        by_cases hwanted : command.noDecisions = true
        · rw [SsaCommand.report_of_unwanted hwanted]
          exact SsaCommand.report_of_unwanted hwanted
        · have hreport : host.text (path .report) = .ok (log .report) :=
            Host.text_of_holds (hfiles .report (by simp [kinds, hwanted]))
          rw [report_of_live hlive hfunction hdump hwanted]
          exact SsaCommand.report_of_decisions hwanted (if_neg hwanted) hreport
      simp only [Except.bind, hreports]

/-- The verdicts from a captured log are the live ones. -/
theorem inline_captured {command : InlineCommand} (hlive : (inline command).Live host log)
    (hfiles : ∀ kind ∈ (inline command).kinds, host.Holds (path kind) (log kind)) :
    (((inline command).captured path).run host).result = ((inline command).run host).result := by
  have hinput : command.input = none := Option.toList_eq_nil_iff.mp hlive.logs_nil
  have hreport : host.text (path .report) = .ok (log .report) :=
    Host.text_of_holds (hfiles .report (List.mem_singleton_self _))
  have hmade : _ ∈ (command.run host).builds :=
    InlineCommand.builds_run hinput hlive.directory_ne_empty ▸ List.mem_singleton_self _
  have hnulFree : NulFree (workspaceName command.file) := nulFree_workspaceName hlive.nulFree_subject
  obtain ⟨status, hprinted⟩ : ∃ status, host.compiler (.report (command.directory.getD host.directory)
      (workspaceName command.file)) = .printed (log .report) status :=
    hlive.compiler_of_mem hmade (hlive.nulFree_pair hnulFree)
  change (({ command with input := some (path .report) } : InlineCommand).report host).value.map
    command.print = (command.report host).value.map command.print
  rw [InlineCommand.report_of_build hinput hlive.directory_ne_empty hprinted,
    InlineCommand.report_of_input rfl hreport]

/-- A command that reads what its builds print from files has the same result as the command that makes
the builds: it prints the same or fails with the same message, and leaves the same exit code. -/
theorem result_captured {command : Command} (hlive : command.Live host log)
    (hfiles : ∀ kind ∈ command.kinds, host.Holds (path kind) (log kind)) :
    ((command.captured path).run host).result = (command.run host).result := by
  cases command with
  | ssa command => exact ssa_captured hlive hfiles
  | inline command => exact inline_captured hlive hfiles

end Agreement

/-- What the builds of a function with one inlined call print. -/
def callLog : Build.Kind → String
  | .dump => "genssa Sum\n# ./a.go\nv1 (5) a\ndumped SSA for Sum,1 to ./ssa.html\n"
  | .report => "./a.go:5:9: inlining call to f\n"

/-- A host with the logs of builds, where the same builds fail and print the same again. -/
def callHost : Host where
  file path :=
    if path = "dump.log" then .ok (Text.Utf8.encode (callLog .dump))
    else if path = "report.log" then .ok (Text.Utf8.encode (callLog .report))
    else .error .missing
  directory := "/work"
  toolchain := {}
  machine invocation :=
    .ran (Text.Utf8.encode (callLog (if invocation.environment.contains "GOSSAFUNC" then .dump
      else .report))) 1

/-- The files of the logs. -/
def callPath : Build.Kind → String
  | .dump => "dump.log"
  | .report => "report.log"

theorem callHost_prints (build : Build) : callHost.Prints build (callLog build.kind) := by
  cases build <;> exact ⟨1, rfl⟩

theorem callHost_holds (kind : Build.Kind) : callHost.Holds (callPath kind) (callLog kind) := by
  cases kind <;> exact ⟨by decide, rfl⟩

/-- On this host, a command without captured outputs is live. -/
theorem callHost_live {command : Command} (hlogs : command.logs = [])
    (hdirectory : command.directory callHost = "/work") (hsubject : NulFree command.subject) :
    command.Live callHost callLog where
  logs_nil := hlogs
  directory_ne_empty := hdirectory ▸ by decide
  nulFree := List.forall_mem_cons.mpr
    ⟨hdirectory ▸ by decide, List.forall_mem_cons.mpr ⟨hsubject, by decide⟩⟩
  nulFree_log kind := by cases kind <;> decide
  prints entry _ := callHost_prints entry.1

/-- The listing of a function with a highlighted line. -/
def callListing : Command := ssa ⟨"main.Sum", none, none, none, some 5, false, false⟩

/-- The verdicts of its file. -/
def callVerdicts : Command := inline ⟨"a.go", none, none, false⟩

theorem result_captured_callHost :
    callListing.Live callHost callLog ∧ callVerdicts.Live callHost callLog ∧
      (∀ kind, callHost.Holds (callPath kind) (callLog kind)) ∧
      ((callListing.captured callPath).run callHost).result = (callListing.run callHost).result ∧
      (callListing.run callHost).output =
        "# SSA: main.Sum (/a.go)\n  # inlining call to f\n> v1 (5) a\n" ∧
      ((callVerdicts.captured callPath).run callHost).result = (callVerdicts.run callHost).result ∧
      (callVerdicts.run callHost).output = "5: inlining call to f\n" := by
  have hlisting : callListing.Live callHost callLog := callHost_live rfl rfl (by decide)
  have hverdicts : callVerdicts.Live callHost callLog := callHost_live rfl rfl (by decide)
  exact ⟨hlisting, hverdicts, callHost_holds,
    result_captured hlisting fun kind _ => callHost_holds kind, by decide +kernel,
    result_captured hverdicts fun kind _ => callHost_holds kind, by decide +kernel⟩

end Command

end SsaLens
