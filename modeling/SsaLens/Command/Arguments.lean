import SsaLens.Command
import SsaLens.Path
import SsaLens.Text.Decimal

/-! # Command line arguments

The first argument is the command. After it come its operand and its settings in any order; after
`--` there are only operands. A setting's value is the next argument or follows a `=`. It is
checked when something else follows, so that of two mistakes the earlier one is reported, except
that an unknown argument is reported first.
-/

namespace SsaLens

/-- What can be set for a command. -/
inductive Setting where
  | directory
  | input
  | decisions
  | line
  | noDecisions
  | json
  deriving DecidableEq, Repr

namespace Setting

def ofName? : String → Option Setting
  | "dir" => some directory
  | "input" => some input
  | "decisions" => some decisions
  | "line" => some line
  | "no-decisions" => some noDecisions
  | "json" => some json
  | _ => none

def takesValue : Setting → Bool
  | noDecisions | json => false
  | _ => true

/-- A line number may have a sign. -/
def lineNumber? (text : String) : Option UInt32 :=
  match text.toList with
  | '+' :: digits => Text.readLine? digits
  | '-' :: digits => (Text.readLine? digits).filter (· = 0)
  | digits => Text.readLine? digits

/-- The path of a log, unless it goes up. -/
def logPath (text : String) : Except String String :=
  if (Path.ofString text).climbs then
    .error "Parent directory components ('..') are not allowed in file paths."
  else .ok text

/-- Why a value does not fit: a directory is not empty, a log is not reached by going up, and a
line is a number. -/
def mistake? (setting : Setting) (text : String) : Option Usage :=
  match setting with
  | directory => if text = "" then some .missingValue else none
  | input | decisions => if (logPath text).isOk then none else some .unfitValue
  | line => if (lineNumber? text).isNone then some .unfitValue else none
  | noDecisions | json => none

end Setting

/-- The two commands by name. -/
inductive Topic where
  | ssa
  | inline
  deriving DecidableEq, Repr

namespace Topic

def ofName? : String → Option Topic
  | "ssa" => some ssa
  | "inline" => some inline
  | _ => none

def admits : Topic → Setting → Bool
  | ssa, _ => true
  | inline, .directory | inline, .input | inline, .json => true
  | inline, _ => false

end Topic

/-- The form of an argument. A lone dash is a plain word. -/
inductive Argument where
  | separator
  | long (name : String) (value : Option String)
  | short (letter : Char)
  | word (text : String)
  deriving DecidableEq, Repr

def Argument.ofString (text : String) : Argument :=
  match text.toList with
  | ['-', '-'] => separator
  | '-' :: '-' :: rest =>
      let name := String.ofList (rest.takeWhile (· ≠ '='))
      match rest.dropWhile (· ≠ '=') with
      | [] => long name none
      | _ :: value => long name (some (String.ofList value))
  | '-' :: letter :: _ => short letter
  | _ => word text

/-- The arguments of a command as far as they are read. The last setting may still wait for its
value, or its value for being checked. -/
structure Form where
  operand : Option String := none
  given : List (Setting × String) := []
  waiting : Option (Setting × Option String) := none

namespace Form

def has (form : Form) (setting : Setting) : Bool := form.given.any (·.1 == setting)

def value? (form : Form) (setting : Setting) : Option String :=
  (form.given.find? (·.1 == setting)).map (·.2)

/-- Enter a value that fits, once. -/
def enter (form : Form) (setting : Setting) (text : String) : Except Usage Form :=
  if form.has setting then .error .conflict
  else match setting.mistake? text with
    | some mistake => .error mistake
    | none => .ok { form with given := form.given ++ [(setting, text)] }

/-- Check what waits. -/
def settle (form : Form) : Except Usage Form :=
  match form.waiting with
  | none => .ok form
  | some (_, none) => .error .missingValue
  | some (setting, some text) => { form with waiting := none }.enter setting text

/-- Take the operand, once. -/
def takeOperand (form : Form) (text : String) : Except Usage Form :=
  if form.operand.isSome then .error .unknownArgument
  else do pure { (← form.settle) with operand := some text }

def takeSetting (form : Form) (setting : Setting) (value : Option String) : Except Usage Form :=
  match setting.takesValue, value with
  | true, some text => do (← form.settle).enter setting text
  | true, none => do pure { (← form.settle) with waiting := some (setting, none) }
  | false, some _ => .error .needlessValue
  | false, none => do (← form.settle).enter setting ""

/-- Help is given after what waits was checked. -/
def giveHelp (form : Form) : Except Usage Form := do
  let _ ← form.settle
  .error .help

def takeLong (topic : Topic) (form : Form) (name : String) (value : Option String) :
    Except Usage Form :=
  match Setting.ofName? name with
  | some setting =>
      if topic.admits setting then form.takeSetting setting value else .error .unknownArgument
  | none =>
      if name ≠ "help" then .error .unknownArgument
      else if value.isSome then .error .needlessValue
      else form.giveHelp

/-- A word is the value that is waited for, or else the operand. -/
def takeWord (form : Form) (text : String) : Except Usage Form :=
  match form.waiting with
  | some (setting, none) => .ok { form with waiting := some (setting, some text) }
  | _ => form.takeOperand text

def takeOperands (form : Form) : List String → Except Usage Form
  | [] => .ok form
  | text :: rest => do takeOperands (← form.takeOperand text) rest

/-- Fill in the form from the arguments after the command. -/
def fill (topic : Topic) (form : Form) : List String → Except Usage Form
  | [] => .ok form
  | text :: rest =>
      match Argument.ofString text with
      | .separator => form.takeOperands rest
      | .long name value => do fill topic (← form.takeLong topic name value) rest
      | .short letter =>
          if letter = 'h' then do fill topic (← form.giveHelp) rest else .error .unknownArgument
      | .word text => do fill topic (← form.takeWord text) rest

/-- The command of a filled form. -/
def command (topic : Topic) (form : Form) : Except Usage Command := do
  let form ← form.settle
  if form.has .noDecisions && form.has .decisions then .error .conflict
  else match form.operand, topic with
    | none, _ => .error .missingArgument
    | some function, .ssa => .ok (.ssa {
        function
        directory := form.value? .directory
        input := form.value? .input
        decisions := form.value? .decisions
        line := (form.value? .line).bind Setting.lineNumber?
        noDecisions := form.has .noDecisions
        json := form.has .json })
    | some file, .inline => .ok (.inline {
        file
        directory := form.value? .directory
        input := form.value? .input
        json := form.has .json })

end Form

namespace Command

/-- Help on the command that words name. -/
def help : List String → Usage
  | [] => .help
  | [name] => if name = "help" ∨ (Topic.ofName? name).isSome then .help else .unknownCommand
  | _ => .unknownCommand

/-- The mistake of a word after the separator that is no operand of the program. -/
def separated : List String → Usage
  | [] => .nothingAsked
  | name :: _ =>
      if name = "help" ∨ (Topic.ofName? name).isSome then .unknownArgument else .unknownCommand

/-- Read the arguments of the program. -/
def ofArguments : List String → Except Usage Command
  | [] => .error .nothingAsked
  | text :: rest =>
      match Argument.ofString text with
      | .separator => .error (separated rest)
      | .long name value =>
          if name ≠ "help" ∧ name ≠ "version" then .error .unknownArgument
          else if value.isSome then .error .needlessValue
          else .error (if name = "help" then .help else .version)
      | .short letter =>
          .error (if letter = 'h' then .help else if letter = 'V' then .version
            else .unknownArgument)
      | .word name =>
          match Topic.ofName? name with
          | some topic => do (← Form.fill topic {} rest).command topic
          | none => .error (if name = "help" then help rest else .unknownCommand)

end Command

end SsaLens
