import SsaLens.SortedMap

/-! # JSON values

Objects keep their fields in written order and with repetitions, because a repeated field
can make a difference to a reader.
-/

namespace SsaLens

/-- A JSON value. A number written as an integer is one; any other number is kept as written. An
illegible value is well formed, but has no value that could be taken in: a number that is too large,
a text with half a character, an object with such a field name, or what is nested too deeply. It can
only be passed over. -/
inductive Json where
  | null
  | bool (value : Bool)
  | int (value : Int)
  | decimal (numeral : String)
  | str (text : String)
  | arr (items : List Json)
  | obj (fields : List (String × Json))
  | illegible
  deriving Inhabited

namespace Json

def ofOption {α : Type} (encode : α → Json) : Option α → Json
  | none => null
  | some value => encode value

def ofNat (value : Nat) : Json := int value

def ofLine (line : UInt32) : Json := int line.toNat

def ofStrings (texts : List String) : Json := arr (texts.map str)

mutual

/-- The value with the fields of every object in key order; of a repeated field the last stays. -/
def normal : Json → Json
  | arr items => arr (normalItems items)
  | obj fields => obj (SortedMap.ofEntries (normalFields fields)).entries
  | other => other

def normalItems : List Json → List Json
  | [] => []
  | item :: rest => normal item :: normalItems rest

def normalFields : List (String × Json) → List (String × Json)
  | [] => []
  | (name, value) :: rest => (name, normal value) :: normalFields rest

end

mutual

/-- No part of a value is illegible. -/
def isLegible : Json → Bool
  | illegible => false
  | arr items => areLegible items
  | obj fields => fieldsAreLegible fields
  | _ => true

def areLegible : List Json → Bool
  | [] => true
  | item :: rest => isLegible item && areLegible rest

def fieldsAreLegible : List (String × Json) → Bool
  | [] => true
  | (_, value) :: rest => isLegible value && fieldsAreLegible rest

end

end Json

end SsaLens
