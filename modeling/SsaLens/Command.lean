/-! # Commands

The program prints the annotated listing of a function or the verdicts of a file.
-/

namespace SsaLens

/-- Print the listing of a function, from a build or from the logs of one. -/
structure SsaCommand where
  function : String
  directory : Option String
  input : Option String
  decisions : Option String
  line : Option UInt32
  noDecisions : Bool
  json : Bool
  deriving DecidableEq, Repr

/-- Print the verdicts of a file, from a build or from the log of one. -/
structure InlineCommand where
  file : String
  directory : Option String
  input : Option String
  json : Bool
  deriving DecidableEq, Repr

inductive Command where
  | ssa (command : SsaCommand)
  | inline (command : InlineCommand)
  deriving DecidableEq, Repr

/-- What ends the reading of the arguments without a command. -/
inductive Usage where
  | help
  | version
  | nothingAsked
  | unknownCommand
  | unknownArgument
  | missingArgument
  | missingValue
  | unfitValue
  | needlessValue
  | conflict
  deriving DecidableEq, Repr

namespace Usage

/-- Help and the version are asked for; all else is a mistake. -/
def exitCode : Usage → Nat
  | help | version => 0
  | _ => 2

/-- What is printed for help and the version. -/
def output : Usage → String
  | version => "gossa 0.1.0\n"
  | help =>
      "Show Go SSA dumps annotated with inlining decisions\n\n" ++
      "gossa ssa FUNCTION [--dir DIR] [--input FILE] [--decisions FILE] [--line LINE]\n" ++
      "          [--no-decisions] [--json]\n" ++
      "gossa inline FILE [--dir DIR] [--input FILE] [--json]\n"
  | _ => ""

/-- What is said about a mistake. -/
def mistake : Usage → String
  | help | version => ""
  | nothingAsked => "a command is required"
  | unknownCommand => "unrecognized command"
  | unknownArgument => "unexpected argument"
  | missingArgument => "a required argument was not provided"
  | missingValue => "a value is required for an argument"
  | unfitValue => "invalid value for an argument"
  | needlessValue => "unexpected value for an argument"
  | conflict => "an argument cannot be used together with another"

end Usage

end SsaLens
