import SsaLens.Build
import SsaLens.Text.Utf8

/-! # The Go toolchain

Builds are made by starting a program. The toolchain names the program and the variables that
it gets on top of the inherited ones; a machine says what starting it does.
-/

namespace SsaLens

/-- How the compiler is called. -/
structure Toolchain where
  binary : String := "go"
  environment : List (String × String) := []
  deriving DecidableEq, Repr

/-- A program start. Of the variables that are set several times the last value counts. -/
structure Invocation where
  program : String
  arguments : List String
  directory : String
  environment : SortedMap String String
  deriving DecidableEq

/-- What starting a program did: it ran and printed bytes, or could not be started. -/
inductive Launch where
  | ran (output : List UInt8) (status : Nat)
  | failed (cause : String)
  deriving DecidableEq, Repr

/-- What program starts do. -/
abbrev Machine := Invocation → Launch

/-- What a build makes, in the words of messages. -/
def Build.product : Build → String
  | dump _ function => "SSA of `" ++ function ++ "`"
  | report _ fileName => "inlining decisions of `" ++ fileName ++ "`"

namespace Invocation

/-- A text that is handed to the operating system may not hold a NUL. -/
def texts (invocation : Invocation) : List String :=
  invocation.program :: invocation.directory :: invocation.arguments ++
    invocation.environment.entries.flatMap fun entry => [entry.1, entry.2]

def holdsNul (invocation : Invocation) : Bool :=
  invocation.texts.any fun text => text.toList.contains '\x00'

/-- A variable as a started program sees it: it gets the name, an equals sign and the value as one
text, and takes what is before the first equals sign for the name, unless the text begins with it. -/
def seenVariable? (entry : String × String) : Option (String × String) :=
  match (entry.1 ++ "=" ++ entry.2).toList with
  | [] => none
  | first :: rest =>
      if rest.contains '=' then
        some (String.ofList (first :: rest.takeWhile (· ≠ '=')),
          String.ofList ((rest.dropWhile (· ≠ '=')).drop 1))
      else none

/-- The variables that a started program sees on top of the inherited ones. -/
def seenVariables (invocation : Invocation) : SortedMap String String :=
  .ofEntries (invocation.environment.entries.filterMap seenVariable?)

/-- Start a program. An invocation with a NUL is refused before the machine sees it. -/
def start (invocation : Invocation) (machine : Machine) : Launch :=
  if invocation.holdsNul then .failed "nul byte found in provided data" else machine invocation

end Invocation

namespace Toolchain

/-- A variable that is set and not empty names another compiler. -/
def ofVariable (value : Option String) : Toolchain :=
  match value.filter (· ≠ "") with
  | some binary => { binary }
  | none => {}

def withBinary (toolchain : Toolchain) (binary : String) : Toolchain := { toolchain with binary }

/-- Set more variables, after those that are set already. -/
def withEnvironment (toolchain : Toolchain) (extra : List (String × String)) : Toolchain :=
  { toolchain with environment := toolchain.environment ++ extra }

/-- The variables of every build. -/
def extraVariables (toolchain : Toolchain) : SortedMap String String := .ofEntries toolchain.environment

/-- The program start that makes a build. The request for a dump wins over a variable of that
name; a report is built from one file, named by the directory and the file name. -/
def invocation (toolchain : Toolchain) : Build → Invocation
  | .dump directory function =>
      ⟨toolchain.binary, ["build", "./..."], directory,
        toolchain.extraVariables.insert "GOSSAFUNC" (Symbol.request function)⟩
  | .report directory fileName =>
      ⟨toolchain.binary, ["build", "-gcflags=-m=2", directory ++ fileName], directory,
        toolchain.extraVariables⟩

/-- Why a build could not be started. -/
def unstartable (toolchain : Toolchain) (build : Build) (cause : String) : String :=
  "failed to spawn " ++ toolchain.binary ++ " for " ++ build.product ++ ": " ++ cause

/-- The compiler that the toolchain makes of a machine. -/
def compiler (toolchain : Toolchain) (machine : Machine) : Compiler := fun build =>
  match (toolchain.invocation build).start machine with
  | .ran output status => .printed (Text.Utf8.lossy output) status
  | .failed cause => .unstartable (toolchain.unstartable build cause)

end Toolchain

end SsaLens
