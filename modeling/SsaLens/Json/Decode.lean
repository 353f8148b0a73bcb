import SsaLens.Json
import SsaLens.Text.Decimal

/-! # Decoding JSON values

A record is read from an object by its field names, or from an array by their order. An
unknown field is passed over; a known field that is given twice is refused.
-/

namespace SsaLens.Json

def asString? : Json → Option String
  | str text => some text
  | _ => none

def asBool? : Json → Option Bool
  | bool value => some value
  | _ => none

/-- An integer of a range. -/
def asInt? (low high : Int) : Json → Option Int
  | int value => if low ≤ value ∧ value ≤ high then some value else none
  | _ => none

/-- A line number: an integer that fits in 32 bits. -/
def asLine? (value : Json) : Option UInt32 :=
  (value.asInt? 0 4294967295).map fun number => UInt32.ofNat number.toNat

/-- An unsigned integer that fits in 64 bits. -/
def asNat? (value : Json) : Option Nat := (value.asInt? 0 18446744073709551615).map Int.toNat

def asList? {α : Type} (decode : Json → Option α) : Json → Option (List α)
  | arr items => items.mapM decode
  | _ => none

/-- A value that may be null. -/
def asOption? {α : Type} (decode : Json → Option α) : Json → Option (Option α)
  | null => some none
  | value => (decode value).map some

/-- A field that may be null or absent. -/
def optional? {α : Type} (decode : Json → Option α) : Option Json → Option (Option α)
  | none => some none
  | some value => value.asOption? decode

/-- A field that has a value of its own when it is absent. -/
def default? {α : Type} (value : α) (decode : Json → Option α) : Option Json → Option α
  | none => some value
  | some given => decode given

/-- The value of a field of an object, unless the field is given twice. -/
def single? (fields : List (String × Json)) (name : String) : Option (Option Json) :=
  match fields.filter (·.1 == name) with
  | [] => some none
  | [(_, value)] => some (some value)
  | _ => none

/-- The named fields of an object, in the order of the names. -/
def objectFields? (names : List String) : Json → Option (List (Option Json))
  | obj fields => names.mapM (single? fields)
  | _ => none

/-- The named fields of a record, in the order of the names. -/
def fields? (names : List String) : Json → Option (List (Option Json))
  | arr items =>
      if items.length ≤ names.length then
        some (items.map some ++ List.replicate (names.length - items.length) none)
      else none
  | value => value.objectFields? names

/-- The tag of a tagged record and the record without it. The tag may be any field of an object,
and is the first item of an array. All of the record has to be legible, because it is taken in
before its tag is known. -/
def tagged? (tag : String) (json : Json) : Option (String × Json) :=
  if json.isLegible then
    match json with
    | obj fields => do
        let name ← (← single? fields tag).bind asString?
        pure (name, obj (fields.filter (·.1 != tag)))
    | arr (name :: rest) => do pure (← name.asString?, arr rest)
    | _ => none
  else none

/-- A line number as a field name: decimal, without leading zeros. -/
def lineKey? (name : String) : Option UInt32 := do
  let line ← Text.readLine? name.toList
  if Text.numeral line.toNat = name.toList then some line else none

/-- A line number is read from the name that is written for it. -/
@[simp] theorem lineKey?_decimal (line : UInt32) : lineKey? (Text.decimal line.toNat) = some line := by
  simp [lineKey?, Text.decimal]

end SsaLens.Json
