import SsaLens.Text.Decimal
import SsaLens.Text.Utf8
import SsaLens.Url.Domain
import SsaLens.Url.Percent

/-! # Hosts

The host of a URL is a name or an address. Names are lower case; addresses have one written form.
-/

namespace SsaLens.Url.Host

/-! ## Addresses of four bytes -/

/-- The value of digits in a base. -/
def ofDigits? (base : Nat) (digits : List Char) : Option Nat :=
  digits.foldlM (fun value c =>
    (Percent.hexValue? c).bind fun digit =>
      if digit < base then some (value * base + digit) else none) 0

/-- A part of an address: hexadecimal after `0x`, octal after `0`, or decimal. -/
def number? : List Char → Option Nat
  | [] => none
  | '0' :: 'x' :: digits | '0' :: 'X' :: digits => ofDigits? 16 digits
  | '0' :: digit :: digits => ofDigits? 8 (digit :: digits)
  | digits => ofDigits? 10 digits

/-- The parts of a name without the empty one after a closing point. -/
def labels (name : List Char) : List (List Char) :=
  let all := parts '.' name
  if 1 < all.length ∧ all.getLast? = some [] then all.dropLast else all

/-- A name whose last part is a number has to be an address. -/
def endsInNumber (name : List Char) : Bool :=
  match (labels name).getLast? with
  | some last => (!last.isEmpty && last.all Char.isDigit) || (number? last).isSome
  | none => false

/-- The value of an address: each number but the last is a byte, and the last fills up the rest. -/
def fourBytes? (name : List Char) : Option Nat := do
  let numbers ← (labels name).mapM number?
  let last ← numbers.getLast?
  let bytes := numbers.dropLast
  if 3 < bytes.length ∨ bytes.any (255 < ·) ∨ Nat.pow 256 (4 - bytes.length) ≤ last then none
  else some ((bytes.zipIdx.map fun (byte, index) => byte * Nat.pow 256 (3 - index)).foldr (· + ·) last)

def fourBytesText (address : Nat) : List Char :=
  ['.'].intercalate ([3, 2, 1, 0].map fun place => Text.numeral (address / Nat.pow 256 place % 256))

/-! ## Addresses of eight groups -/

/-- Groups of hexadecimal digits between colons; the last may be an address of four bytes. -/
def groups? (text : List Char) : Option (List Nat) :=
  if text = [] then some []
  else
    let all := parts ':' text
    let group? (digits : List Char) : Option Nat :=
      if digits = [] ∨ 4 < digits.length then none else ofDigits? 16 digits
    match all.getLast? with
    | some last =>
        if last.contains '.' then do
          let bytes ← (parts '.' last).mapM fun digits =>
            if (1 < digits.length ∧ digits.head? = some '0') then none
            else (Text.readNat? digits).filter (· < 256)
          match bytes with
          | [a, b, c, d] => pure ((← all.dropLast.mapM group?) ++ [a * 256 + b, c * 256 + d])
          | _ => none
        else all.mapM group?
    | none => none

/-- The texts around the first double colon. -/
def atGap? : List Char → Option (List Char × List Char)
  | ':' :: ':' :: rest => some ([], rest)
  | c :: rest => (atGap? rest).map fun (before, after) => (c :: before, after)
  | [] => none

/-- The eight groups; a double colon stands for the zeros that are missing. -/
def eightGroups? (text : List Char) : Option (List Nat) :=
  match atGap? text with
  | some (before, after) => do
      let first ← groups? before
      let last ← groups? after
      if first.length + last.length < 8 ∧ ¬before.contains '.' then
        some (first ++ List.replicate (8 - first.length - last.length) 0 ++ last)
      else none
  | none => (groups? text).filter (·.length = 8)

/-- The start and length of the longest run of zeros, if it has two or more. -/
def longestGap? (groups : List Nat) : Option (Nat × Nat) :=
  let runs := (List.range groups.length).map fun start =>
    (start, ((groups.drop start).takeWhile (· = 0)).length)
  let best := runs.foldl (fun best run => if best.2 < run.2 then run else best) (0, 1)
  if 1 < best.2 then some best else none

def hexText (value : Nat) : List Char := Nat.toDigits 16 value

def eightGroupsText (groups : List Nat) : List Char :=
  let join (some : List Nat) := [':'].intercalate (some.map hexText)
  '[' :: (match longestGap? groups with
    | some (start, size) =>
        join (groups.take start) ++ [':', ':'] ++ join (groups.drop (start + size))
    | none => join groups) ++ [']']

/-! ## Hosts -/

def bracketed? : List Char → Option (List Char)
  | '[' :: rest => if rest.getLast? = some ']' then some rest.dropLast else none
  | _ => none

/-- The host of a URL whose scheme knows hosts. A domain name that ends in a number has to be an
address. -/
def ofText? (text : List Char) : Option (List Char) :=
  if text.head? = some '[' then do
    pure (eightGroupsText (← eightGroups? (← bracketed? text)))
  else do
    let decoded ← Text.Utf8.text? (Percent.decode text)
    let name ← Domain.ofText? decoded.toList
    if name = [] then none
    else if endsInNumber name then do pure (fourBytesText (← fourBytes? name))
    else some name

/-- The host of any other URL: an address in brackets, or a text without separators. -/
def opaqueOfText? (text : List Char) : Option (List Char) :=
  if text.head? = some '[' then do
    pure (eightGroupsText (← eightGroups? (← bracketed? text)))
  else if text.any "\x00\t\n\r #/:<>?@[\\]^|".toList.contains then none
  else some (Percent.encode [] text)

end SsaLens.Url.Host
