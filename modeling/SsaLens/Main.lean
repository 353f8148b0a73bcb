import SsaLens.Command.Arguments
import SsaLens.Command.Run
import SsaLens.Log.Filter

/-! # The program

Prints listings and verdicts from the captured logs of builds. No build is started here: a command
that needs one finds a machine on which no program starts.
-/

namespace SsaLens.Program

/-- The cause of a failed read. -/
def readError : IO.Error → FileError
  | .noFileOrDirectory .. => .missing
  | .inappropriateType _ code _ => if code = 20 then .underFile else .directory
  | error => .other (toString error)

/-- A log with its content, or why it cannot be read. -/
def readLog (path : String) : IO (String × Except FileError (List UInt8)) := do
  try
    let content ← IO.FS.readBinFile path
    pure (path, .ok content.toList)
  catch error => pure (path, .error (readError error))

/-- The host of a command, with the logs that it may read. -/
def hostOf (command : Command) : IO Host := do
  let logs ← command.logs.mapM readLog
  let directory ← IO.currentDir
  let named ← IO.getEnv "GOSSA_GO"
  pure {
    file := fun path => ((logs.find? (·.1 == path)).map (·.2)).getD (.error .missing)
    directory := directory.toString
    toolchain := Toolchain.ofVariable named
    machine := fun _ => .failed "Operation not supported (os error 95)" }

/-- Run a command: its output goes to the standard output, its log and failure to the other. -/
def perform (command : Command) : IO UInt32 := do
  let filter := LogFilter.ofVariables (← IO.getEnv "GOSSA_TRACE") (← IO.getEnv "RUST_LOG")
  let run := command.run (← hostOf command)
  for entry in run.log.filter filter.admits do
    IO.eprint entry.print
  IO.print run.output
  if let .error failure := run.result then
    IO.eprint failure.print
  pure run.exitCode.toUInt32

end SsaLens.Program

open SsaLens in
/-- Run the program on its arguments. -/
def main (args : List String) : IO UInt32 := do
  match Command.ofArguments args with
  | .ok command => Program.perform command
  | .error usage =>
      IO.print usage.output
      if usage.exitCode ≠ 0 then
        IO.eprintln ("error: " ++ usage.mistake)
      pure usage.exitCode.toUInt32
