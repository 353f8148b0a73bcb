import SsaLens.Json
import SsaLens.Json.Magnitude

/-! # Reading JSON text

A text is one JSON value with blanks around it. Control characters inside strings and numbers with
superfluous zeros are refused. What is well formed but cannot be represented is illegible.
-/

namespace SsaLens.Json

def isSpace (c : Char) : Bool := c = ' ' || c = '\t' || c = '\n' || c = '\r'

def hexValue? (c : Char) : Option Nat :=
  if '0' ≤ c ∧ c ≤ '9' then some (c.toNat - 0x30)
  else if 'a' ≤ c ∧ c ≤ 'f' then some (c.toNat - 0x57)
  else if 'A' ≤ c ∧ c ≤ 'F' then some (c.toNat - 0x37)
  else none

/-- The number of four hexadecimal digits. -/
def unit? (a b c d : Char) : Option Nat := do
  pure (((← hexValue? a) * 16 + (← hexValue? b)) * 256 + (← hexValue? c) * 16 + (← hexValue? d))

/-- The first half of a character. -/
def isHigh (unit : Nat) : Bool := 0xd800 ≤ unit && unit < 0xdc00

/-- The second half of a character. -/
def isLow (unit : Nat) : Bool := 0xdc00 ≤ unit && unit < 0xe000

/-- The character of two halves. -/
def joinHalves (high low : Nat) : Char := Char.ofNat (0x10000 + (high - 0xd800) * 0x400 + (low - 0xdc00))

/-- The character that a letter after a backslash stands for. -/
def escaped? : Char → Option Char
  | '"' => some '"'
  | '\\' => some '\\'
  | '/' => some '/'
  | 'b' => some '\x08'
  | 'f' => some '\x0c'
  | 'n' => some '\n'
  | 'r' => some '\r'
  | 't' => some '\t'
  | _ => none

/-- A text after a character that does not complete its last half. -/
def unlessHalf (half : Option Nat) (read : Option (List Char)) : Option (List Char) :=
  if half.isSome then none else read

/-- The inside of a string up to its closing quote, and what follows it. A string with half a
character has no text. -/
def readString (half : Option Nat) (read : Option (List Char)) :
    List Char → Option (Option (List Char) × List Char)
  | [] => none
  | '"' :: rest => some ((unlessHalf half read).map List.reverse, rest)
  | '\\' :: 'u' :: a :: b :: c :: d :: rest =>
      match unit? a b c d with
      | none => none
      | some unit =>
          if isLow unit then
            readString none (half.bind fun high => read.map (joinHalves high unit :: ·)) rest
          else if isHigh unit then readString (some unit) (unlessHalf half read) rest
          else readString none ((unlessHalf half read).map (Char.ofNat unit :: ·)) rest
  | '\\' :: letter :: rest =>
      match escaped? letter with
      | none => none
      | some c => readString none ((unlessHalf half read).map (c :: ·)) rest
  | c :: rest =>
      if c.toNat < 0x20 ∨ c = '\\' then none
      else readString none ((unlessHalf half read).map (c :: ·)) rest

def digitsOf (numeral : List Char) : List Nat :=
  (numeral.filter Char.isDigit).map fun c => c.toNat - 0x30

/-- The exponent that is written after the letter. -/
def exponentOf (power : List Char) : Int :=
  let size := (digitsOf power).foldl (fun value digit => value * 10 + digit) 0
  if power.contains '-' then -Int.ofNat size else Int.ofNat size

/-- A number, and what follows it. -/
def readNumber (text : List Char) : Option (Json × List Char) :=
  let sign := if text.head? = some '-' then ['-'] else []
  let unsigned := text.drop sign.length
  let whole := unsigned.takeWhile Char.isDigit
  let afterWhole := unsigned.drop whole.length
  let fraction := match afterWhole with
    | '.' :: rest => '.' :: rest.takeWhile Char.isDigit
    | _ => []
  let afterFraction := afterWhole.drop fraction.length
  let power := match afterFraction with
    | 'e' :: '+' :: rest => 'e' :: '+' :: rest.takeWhile Char.isDigit
    | 'e' :: '-' :: rest => 'e' :: '-' :: rest.takeWhile Char.isDigit
    | 'e' :: rest => 'e' :: rest.takeWhile Char.isDigit
    | 'E' :: '+' :: rest => 'E' :: '+' :: rest.takeWhile Char.isDigit
    | 'E' :: '-' :: rest => 'E' :: '-' :: rest.takeWhile Char.isDigit
    | 'E' :: rest => 'E' :: rest.takeWhile Char.isDigit
    | _ => []
  let rest := afterFraction.drop power.length
  let endsInDigit (part : List Char) := part = [] ∨ part.getLast?.any Char.isDigit
  let magnitude := (Magnitude.addWhole {} (digitsOf whole)).addFraction (digitsOf fraction)
  if whole = [] ∨ (1 < whole.length ∧ whole.head? = some '0') ∨ ¬endsInDigit fraction ∨
      ¬endsInDigit power then none
  else if magnitude.overflowsWith (exponentOf power) then some (.illegible, rest)
  else if fraction = [] ∧ power = [] ∧ ¬(sign ≠ [] ∧ whole = ['0']) then
    let size := whole.foldl (fun value c => value * 10 + (c.toNat - 0x30)) 0
    some (.int (if sign = [] then Int.ofNat size else -Int.ofNat size), rest)
  else some (.decimal (String.ofList (sign ++ whole ++ fraction ++ power)), rest)

/-- How many containers may be inside each other. -/
def depthLimit : Nat := 127

/-- A container at a depth. -/
def atDepth (depth : Nat) (value : Json) : Json := if depthLimit ≤ depth then .illegible else value

/-- The fields with one more in front, if all names are legible. -/
def consField (name : Option (List Char)) (value : Json)
    (fields : Option (List (String × Json))) : Option (List (String × Json)) := do
  pure ((String.ofList (← name), value) :: (← fields))

mutual

/-- A value inside of some containers, and what follows it. The fuel bounds the values and
separators read. Names of a plain object are written without escapes. -/
def readValue (isPlain : Bool) : Nat → Nat → List Char → Option (Json × List Char)
  | 0, _, _ => none
  | fuel + 1, depth, text =>
      match text.dropWhile isSpace with
      | '{' :: rest =>
          match rest.dropWhile isSpace with
          | '}' :: rest => some (atDepth depth (.obj []), rest)
          | rest => (readFields isPlain fuel depth rest).map fun (fields, rest) =>
              (atDepth depth ((fields.map Json.obj).getD .illegible), rest)
      | '[' :: rest =>
          match rest.dropWhile isSpace with
          | ']' :: rest => some (atDepth depth (.arr []), rest)
          | rest => (readItems fuel depth rest).map fun (items, rest) =>
              (atDepth depth (.arr items), rest)
      | '"' :: rest => (readString none (some []) rest).map fun (text, rest) =>
          ((text.map fun text => Json.str (String.ofList text)).getD .illegible, rest)
      | 'n' :: 'u' :: 'l' :: 'l' :: rest => some (.null, rest)
      | 't' :: 'r' :: 'u' :: 'e' :: rest => some (.bool true, rest)
      | 'f' :: 'a' :: 'l' :: 's' :: 'e' :: rest => some (.bool false, rest)
      | rest => readNumber rest

def readItems : Nat → Nat → List Char → Option (List Json × List Char)
  | 0, _, _ => none
  | fuel + 1, depth, text => do
      let (item, rest) ← readValue false fuel (depth + 1) text
      match rest.dropWhile isSpace with
      | ',' :: rest =>
          let (items, rest) ← readItems fuel depth rest
          pure (item :: items, rest)
      | ']' :: rest => pure ([item], rest)
      | _ => none

def readFields (isPlain : Bool) :
    Nat → Nat → List Char → Option (Option (List (String × Json)) × List Char)
  | 0, _, _ => none
  | fuel + 1, depth, text => do
      match text.dropWhile isSpace with
      | '"' :: rest =>
          let (name, afterName) ← readString none (some []) rest
          if isPlain && (rest.take (rest.length - afterName.length)).contains '\\' then none
          else match afterName.dropWhile isSpace with
            | ':' :: rest =>
                let (value, rest) ← readValue false fuel (depth + 1) rest
                match rest.dropWhile isSpace with
                | ',' :: rest =>
                    let (fields, rest) ← readFields isPlain fuel depth rest
                    pure (consField name value fields, rest)
                | '}' :: rest => pure (consField name value (some []), rest)
                | _ => none
            | _ => none
      | _ => none

end

/-- The value that a text holds, if it holds one and nothing else. -/
def read? (isPlain : Bool) (text : String) : Option Json := do
  let (value, rest) ← readValue isPlain (text.length + 1) 0 text.toList
  if rest.all isSpace then some value else none

/-- The value that a text holds. -/
def parse? (text : String) : Option Json := read? false text

/-- The value that a text holds, where the field names of the outermost object are written without
escapes. -/
def parsePlain? (text : String) : Option Json := read? true text

end SsaLens.Json
