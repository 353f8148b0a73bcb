import SsaLens.Json.Decode
import SsaLens.Url.Reader

/-! # Shapes of parameters

What a client may send is described by shapes. A record is an object with named fields, or an array
with the values of the fields in their order. In an object a field without a need may be absent; in
an array only one with a value of its own may, at the end.
-/

namespace SsaLens

/-- Whether a field has to be there. -/
inductive Need where
  | required
  | optional
  | presumed
  deriving DecidableEq, Repr

/-- What a value has to look like. -/
inductive Shape where
  | anything
  | bool
  | text
  | url
  | number
  | integer (low high : Int)
  /-- One of some words, by itself or as the only field of an object, with null. -/
  | word (words : List String)
  | nullable (shape : Shape)
  | list (shape : Shape)
  /-- An array of given length. -/
  | row (shapes : List Shape)
  /-- An object of any field names. -/
  | entries (shape : Shape)
  /-- An object whose field names are URLs. -/
  | entriesOfUrls (shape : Shape)
  | record (fields : List (String × Need × Shape))
  /-- A record that is not given as an array; other fields have a shape of their own. -/
  | object (fields : List (String × Need × Shape)) (others : Shape)
  | either (first second : Shape)
  /-- A record that is tagged with one of some names. -/
  | tagged (tag : String) (cases : List (String × Shape))

namespace Shape

/-- A value is one of some words. -/
def isWord (words : List String) : Json → Bool
  | .str given => words.contains given
  | .obj [(given, .null)] => words.contains given
  | _ => false

def isNumber : Json → Bool
  | .int _ | .decimal _ => true
  | _ => false

mutual

/-- A value has a shape. -/
def fits : Shape → Json → Bool
  | anything, _ => true
  | bool, value => value.asBool?.isSome
  | text, value => value.asString?.isSome
  | url, value => (value.asString?.bind Url.parse?).isSome
  | number, value => isNumber value
  | integer low high, value => (value.asInt? low high).isSome
  | word words, value => isWord words value
  | nullable shape, value =>
      match value with
      | .null => true
      | value => fits shape value
  | list shape, value =>
      match value with
      | .arr items => items.all (fits shape)
      | _ => false
  | row shapes, value =>
      match value with
      | .arr items => fitRow shapes items
      | _ => false
  | entries shape, value =>
      match value with
      | .obj given => given.all fun (_, value) => fits shape value
      | _ => false
  | entriesOfUrls shape, value =>
      match value with
      | .obj given => given.all fun (name, value) => (Url.parse? name).isSome && fits shape value
      | _ => false
  | record fields, value =>
      match value with
      | .obj given => fitNamed fields given
      | .arr items => fitPlaced fields items
      | _ => false
  | object fields others, value =>
      match value with
      | .obj given =>
          fitNamed fields given && given.all fun (name, value) =>
            (fields.map (·.1)).contains name || fits others value
      | _ => false
  | either first second, value => fits first value || fits second value
  | tagged tag cases, value =>
      match value.tagged? tag with
      | some (name, body) => fitCase name cases body
      | none => false

/-- Items have the shapes of a row. -/
def fitRow : List Shape → List Json → Bool
  | [], items => items.isEmpty
  | shape :: rest, item :: items => fits shape item && fitRow rest items
  | _ :: _, [] => false

/-- The fields of an object have the shapes of a record. -/
def fitNamed : List (String × Need × Shape) → List (String × Json) → Bool
  | [], _ => true
  | (name, need, shape) :: rest, given =>
      (match Json.single? given name with
        | none => false
        | some none => need ≠ .required
        | some (some value) => fits shape value) && fitNamed rest given

/-- The items of an array have the shapes of a record. -/
def fitPlaced : List (String × Need × Shape) → List Json → Bool
  | [], items => items.isEmpty
  | (_, _, shape) :: rest, item :: items => fits shape item && fitPlaced rest items
  | (_, need, _) :: rest, [] => need = .presumed && fitPlaced rest []

/-- A tagged record has the shape of its case. -/
def fitCase (name : String) : List (String × Shape) → Json → Bool
  | [], _ => false
  | (known, shape) :: rest, body => if name = known then fits shape body else fitCase name rest body

end

/-! ## Fields -/

abbrev Field := String × Need × Shape

/-- A field that has to be there. -/
def must (name : String) (shape : Shape) : Field := (name, .required, shape)

/-- A field that may be null or absent. -/
def may (name : String) (shape : Shape) : Field := (name, .optional, .nullable shape)

/-- A field that may be null or absent, also at the end of an array. -/
def mayEnd (name : String) (shape : Shape) : Field := (name, .presumed, .nullable shape)

/-- A record of which an array form is not known, and whose other fields do not matter. -/
def named (fields : List Field) : Shape := .object fields .anything

def unsigned : Shape := .integer 0 4294967295

def signed : Shape := .integer (-2147483648) 2147483647

def texts : Shape := .list .text

end Shape

end SsaLens
