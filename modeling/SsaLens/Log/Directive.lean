import SsaLens.Log
import SsaLens.Text.Alphanumeric
import SsaLens.Text.Blank
import SsaLens.Text.Decimal

/-! # Log directives

A directive is a level, a scope, or a scope and a level with `=` between them. Brackets after the
scope confine it to the inside of a span, or to entries that have a field.
-/

namespace SsaLens

/-- A field that a directive asks for, by its name alone or with a value. -/
structure LogField where
  name : String
  hasValue : Bool
  deriving DecidableEq, Repr

/-- What is let through for the scopes that begin with a text. No level is silence. -/
structure LogDirective where
  scope : Option String := none
  span : Option String := none
  field : Option LogField := none
  level : Option LogLevel := some .trace
  deriving DecidableEq, Repr

namespace LogDirective

/-- A level by its name in any case, or by its number. -/
def level? (text : String) : Option (Option LogLevel) :=
  let digits := match text.toList with
    | '+' :: digits => digits
    | digits => digits
  match Text.readNat? digits with
  | some 0 => some none
  | some 1 => some (some .error)
  | some 2 => some (some .warn)
  | some 3 => some (some .info)
  | some 4 => some (some .debug)
  | some 5 => some (some .trace)
  | some _ => none
  | none =>
      match text.toLower with
      | "off" => some none
      | "" | "error" => some (some .error)
      | "warn" => some (some .warn)
      | "info" => some (some .info)
      | "debug" => some (some .debug)
      | "trace" => some (some .trace)
      | _ => none

/-- Where in a directive a reader is, and where the part began that it is in. -/
inductive Place where
  | front
  | word (start : Nat)
  | span (start : Nat)
  | field (start : Nat)
  | afterField
  | afterSpan
  | level (start : Nat)
  deriving DecidableEq, Repr

def mayBegin (c : Char) : Bool := c = '-' || c = ':' || c = '_' || Text.isAlphanumeric c

/-- The bytes of a text between two positions. -/
def slice (text : String) (start stop : Nat) : String :=
  Text.Utf8.lossy (((Text.Utf8.encode text).take stop).drop start)

def field? (text : String) : Option LogField :=
  if text = "" then none
  else
    let name := text.toList.takeWhile (· ≠ '=')
    some ⟨String.ofList name, name.length < text.length⟩

/-- Read one character, which stands at a position. -/
def step (text : String) (state : Place × LogDirective) (read : Nat × Char) :
    Option (Place × LogDirective) :=
  let (place, directive) := state
  let (position, c) := read
  match place with
  | .front =>
      if c = '[' then some (.span (position + 1), directive)
      else if mayBegin c then some (.word position, directive)
      else none
  | .word start =>
      let named := { directive with scope := some (slice text start position) }
      if c = '=' then some (.level (position + 1), named)
      else if c = '[' then some (.span (position + 1), named)
      else some (place, directive)
  | .span start =>
      let name := slice text start position
      if c = ']' then some (.afterSpan, { directive with span := some name })
      else if c = '{' then
        some (.field (position + 1), { directive with span := some name |>.filter (· ≠ "") })
      else some (place, directive)
  | .field start =>
      if c = '}' then do
        pure (.afterField, { directive with field := some (← field? (slice text start position)) })
      else some (place, directive)
  | .afterField => if c = ']' then some (.afterSpan, directive) else none
  | .afterSpan => if c = '=' then some (.level (position + 1), directive) else none
  | .level _ => some (place, directive)

/-- What a directive is when it ends at a place. A word is a level if it can be one. -/
def finish (text : String) : Place × LogDirective → Option LogDirective
  | (.word start, directive) =>
      let word := slice text start (Text.Utf8.encode text).length
      match level? word with
      | some level => some { directive with level }
      | none => some { directive with scope := some word }
  | (.level start, directive) =>
      let word := slice text start (Text.Utf8.encode text).length
      if word = "" then some directive else (level? word).map ({ directive with level := · })
  | (.afterSpan, directive) => some directive
  | _ => none

/-- The characters of a text with the positions of their first bytes. -/
def positions (start : Nat) : List Char → List (Nat × Char)
  | [] => []
  | c :: rest => (start, c) :: positions (start + c.utf8Size) rest

/-- Read a directive. Blanks around it do not count when its parts are told apart; the parts
themselves are cut from the text with the blanks, at the positions without them. -/
def parse? (text : String) : Option LogDirective :=
  ((positions 0 (Text.trim text.toList)).foldlM (step text) (.front, {})).bind (finish text)

/-- An entry has one field, its message, and is made outside of spans. -/
def concerns (directive : LogDirective) (entry : LogEntry) : Bool :=
  directive.scope.all (·.toList.isPrefixOf entry.scope.toList) && directive.span.isNone &&
    directive.field.all (· == ⟨"message", false⟩)

def admits (directive : LogDirective) (entry : LogEntry) : Bool :=
  directive.level.any (entry.level.detail ≤ ·.detail)

/-- How much a directive says: the length of its scope, then the number of its fields. -/
def precision (directive : LogDirective) : Nat × Nat :=
  (directive.scope.elim 0 (·.utf8ByteSize + 1), directive.field.elim 0 fun _ => 1)

def isPreciserThan (first second : LogDirective) : Bool :=
  second.precision.1 < first.precision.1 ||
    (second.precision.1 == first.precision.1 && second.precision.2 < first.precision.2)

end LogDirective

end SsaLens
