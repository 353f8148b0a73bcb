import SsaLens.Text.Decimal
import SsaLens.Toolchain

/-! # Log

What builds leave in the log: their output and exit status, and why one could not be started.
-/

namespace SsaLens

inductive LogLevel where
  | error
  | warn
  | info
  | debug
  | trace
  deriving DecidableEq, Repr

namespace LogLevel

/-- How much a level lets through: a level admits itself and all with a lower number. -/
def detail : LogLevel → Nat
  | error => 1
  | warn => 2
  | info => 3
  | debug => 4
  | trace => 5

def name : LogLevel → String
  | error => "ERROR"
  | warn => "WARN"
  | info => "INFO"
  | debug => "DEBUG"
  | trace => "TRACE"

end LogLevel

/-- A message of a part of the program. -/
structure LogEntry where
  level : LogLevel
  scope : String
  text : String
  deriving DecidableEq, Repr

namespace LogEntry

/-- A character as the log shows it. Characters that a terminal could take for a command are
written by their code: escape, bell, backspace, form feed, delete, and the second control block. -/
def shown (c : Char) : List Char :=
  match c with
  | '\x07' => ['\\', 'x', '0', '7']
  | '\x08' => ['\\', 'x', '0', '8']
  | '\x0c' => ['\\', 'x', '0', 'c']
  | '\x1b' => ['\\', 'x', '1', 'b']
  | '\x7f' => ['\\', 'x', '7', 'f']
  | c =>
      if 0x80 ≤ c.toNat ∧ c.toNat ≤ 0x9f then
        ['\\', 'u', '\x7b'] ++ Nat.toDigits 16 c.toNat ++ ['\x7d']
      else [c]

/-- The line of an entry; the text may go over several lines. -/
def print (entry : LogEntry) : String :=
  entry.level.name ++ " " ++ String.ofList (entry.text.toList.flatMap shown) ++ "\n"

end LogEntry

namespace Build

/-- The part of the program that makes builds. -/
def scope : String := "gossa_core::toolchain"

/-- The heading of a logged output. -/
def heading : Build → String
  | dump _ function => "Output of SSA for `" ++ function ++ "`:\n"
  | report _ fileName => "Output of inlining decisions for `" ++ fileName ++ "`:\n"

/-- The words for a build that could not be started. -/
def failure : Build → String
  | dump _ function => "SSA build for `" ++ function ++ "` failed: "
  | report _ fileName => "inlining report for `" ++ fileName ++ "` failed: "

/-- What a build leaves in the log. An exit status other than zero is noted and nothing more. -/
def log (build : Build) : Outcome → List LogEntry
  | .printed output status =>
      let entry (text : String) : LogEntry := ⟨.debug, scope, text⟩
      let exit := "go exited with exit status: " ++ Text.decimal status ++ " while producing " ++
        build.product
      (if status = 0 then [] else [entry exit]) ++ [entry (build.heading ++ output)]
  | .unstartable reason => [⟨.warn, scope, build.failure ++ reason⟩]
  | .crashed _ => []

end Build

end SsaLens
