import SsaLens.Command
import SsaLens.Json.Writer
import SsaLens.Log
import SsaLens.Report.Record
import SsaLens.View.Record

/-! # Running commands

A command sees a host: its files, its current directory, and what program starts do. It prints
something or fails, and leaves the builds that it took.
-/

namespace SsaLens

/-- Why a file cannot be read as text. -/
inductive FileError where
  | missing
  | directory
  | underFile
  | longName
  | nulInName
  | notText
  | other (detail : String)
  deriving DecidableEq, Repr

def FileError.message : FileError → String
  | missing => "No such file or directory (os error 2)"
  | directory => "Is a directory (os error 21)"
  | underFile => "Not a directory (os error 20)"
  | longName => "File name too long (os error 36)"
  | nulInName => "file name contained an unexpected NUL byte"
  | notText => "stream did not contain valid UTF-8"
  | other detail => detail

/-- What a command sees. -/
structure Host where
  file : String → Except FileError (List UInt8)
  directory : String
  toolchain : Toolchain
  machine : Machine

namespace Host

def compiler (host : Host) : Compiler := host.toolchain.compiler host.machine

/-- The text of a file. -/
def text (host : Host) (path : String) : Except FileError String :=
  if path.toList.contains '\x00' then .error .nulInName
  else do
    match Text.Utf8.text? (← host.file path) with
    | some text => .ok text
    | none => .error .notText

end Host

/-- Why a command fails. -/
inductive Failure where
  | unreadable (path : String) (error : FileError)
  | explorer (error : ExplorerError)
  deriving DecidableEq, Repr

namespace Failure

def message : Failure → String
  | unreadable path _ => "Failed to read file '" ++ path ++ "'"
  | explorer error => error.message

/-- What lies behind the message. -/
def cause? : Failure → Option String
  | unreadable _ error => some error.message
  | explorer _ => none

/-- The message and its cause in one line. -/
def chain (failure : Failure) : String :=
  match failure.cause? with
  | some cause => failure.message ++ ": " ++ cause
  | none => failure.message

/-- The message and its cause as they are shown at the end of a run. -/
def print (failure : Failure) : String :=
  match failure.cause? with
  | some cause => "Error: " ++ failure.message ++ "\n\nCaused by:\n    " ++ cause ++ "\n"
  | none => "Error: " ++ failure.message ++ "\n"

end Failure

/-- What a command leaves. -/
structure Run where
  result : Except Failure String
  builds : List (Build × Outcome)
  remarks : List LogEntry

namespace Run

def output (run : Run) : String := run.result.toOption.getD ""

def exitCode (run : Run) : Nat := if run.result.isOk then 0 else 1

/-- The log of a run: that of its builds, then its own remarks. -/
def log (run : Run) : List LogEntry :=
  run.builds.flatMap (fun (build, outcome) => build.log outcome) ++ run.remarks

end Run

/-- A file as the workspace names it: `main.go`, `./main.go` and `/main.go` are the same. -/
def workspaceName (text : String) : String :=
  let name := Text.trim text.toList
  let relative := (Text.after? ['.', '/'] name).getD name
  if relative.head? = some '/' then String.ofList relative else String.ofList ('/' :: relative)

namespace SsaCommand

/-- The dump of a function, from a captured log or from a build. -/
def dump (command : SsaCommand) (host : Host) (function : String) : Traced (Except Failure Dump) :=
  match command.input with
  | some path => pure do
      let output ← (host.text path).mapError (Failure.unreadable path)
      match Dump.extract output function with
      | some dump => .ok dump
      | none => .error (.explorer (.notFound function))
  | none => do
      let found ← host.compiler.loadDump (command.directory.getD host.directory) function
      pure (found.mapError Failure.explorer)

/-- The verdicts beside a dump: none if they are not wanted, those of a captured log, or those of a
build. A captured dump alone has none. -/
def report (command : SsaCommand) (host : Host) (dump : Dump) : Traced (Except Failure Report) :=
  if command.noDecisions then pure (.ok ∅)
  else match command.decisions, command.input with
    | some path, _ =>
        pure ((host.text path).map Report.parse |>.mapError (Failure.unreadable path))
    | none, some _ => pure (.ok ∅)
    | none, none => do
        pure (.ok (← host.compiler.loadReport (command.directory.getD host.directory) dump.fileName))

/-- The view that is printed, with its highlighted line. -/
def view (command : SsaCommand) (function : String) (dump : Dump) (report : Report) : View :=
  let view := View.ofDump function dump report
  match command.line with
  | some line => view.apply (.highlight line view.fileName)
  | none => view

def print (command : SsaCommand) (view : View) : String :=
  if command.json then view.toJson.pretty ++ "\n"
  else "# SSA: " ++ view.function ++ " (" ++ view.fileName ++ ")\n" ++
    view.print (!command.noDecisions)

/-- A remark on the size of what was found. -/
def remark (dump : Dump) (report : Report) : LogEntry :=
  ⟨.info, "gossa", Text.decimal dump.rows.length ++ " SSA rows, " ++ Text.decimal report.size ++
    " inlining decisions for " ++ dump.fileName⟩

/-- Print the listing of a function. A blank name asks for nothing. -/
def run (command : SsaCommand) (host : Host) : Run :=
  let function := Text.trimmed command.function
  if function = "" then ⟨.ok "", [], []⟩
  else
    let first := command.dump host function
    match first.value with
    | .error failure => ⟨.error failure, first.builds, []⟩
    | .ok dump =>
        let second := command.report host dump
        match second.value with
        | .error failure => ⟨.error failure, first.builds ++ second.builds, []⟩
        | .ok report =>
            ⟨.ok (command.print (command.view function dump report)),
              first.builds ++ second.builds, [remark dump report]⟩

end SsaCommand

namespace InlineCommand

/-- The verdicts of a file, from a captured log or from a build. -/
def report (command : InlineCommand) (host : Host) : Traced (Except Failure Report) :=
  match command.input with
  | some path => pure ((host.text path).map Report.parse |>.mapError (Failure.unreadable path))
  | none => do
      pure (.ok (← host.compiler.loadReport (command.directory.getD host.directory)
        (workspaceName command.file)))

def print (command : InlineCommand) (report : Report) : String :=
  let fileName := workspaceName command.file
  if command.json then (report.toFileJson fileName).pretty ++ "\n" else report.text fileName

/-- Print the verdicts of a file. -/
def run (command : InlineCommand) (host : Host) : Run :=
  let found := command.report host
  ⟨found.value.map command.print, found.builds, []⟩

end InlineCommand

namespace Command

/-- The logs that a command may read. -/
def logs : Command → List String
  | ssa command => command.input.toList ++ command.decisions.toList
  | inline command => command.input.toList

def run (host : Host) : Command → Run
  | ssa command => command.run host
  | inline command => command.run host

end Command

end SsaLens
