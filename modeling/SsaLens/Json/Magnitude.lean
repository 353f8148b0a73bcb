/-! # The size of numbers

A number is kept as nineteen or twenty leading digits and a power of ten. It is too large if the
product of the two, each of them rounded to 53 binary digits, is beyond the largest floating-point
number of 64 bits.
-/

namespace SsaLens.Json

/-- Digits that fit in 64 bits, and the power of ten that they are multiplied with. -/
structure Magnitude where
  digits : Nat := 0
  power : Int := 0
  deriving DecidableEq, Repr

namespace Magnitude

def digitsLimit : Nat := Nat.pow 2 64

/-- Append the digits before the point; those that no longer fit raise the power. -/
def addWhole (magnitude : Magnitude) : List Nat → Magnitude
  | [] => magnitude
  | digit :: rest =>
      if magnitude.digits * 10 + digit < digitsLimit then
        addWhole ⟨magnitude.digits * 10 + digit, magnitude.power⟩ rest
      else ⟨magnitude.digits, magnitude.power + (rest.length + 1)⟩

/-- Append the digits after the point; those that no longer fit are passed over. -/
def addFraction (magnitude : Magnitude) : List Nat → Magnitude
  | [] => magnitude
  | digit :: rest =>
      if magnitude.digits * 10 + digit < digitsLimit then
        addFraction ⟨magnitude.digits * 10 + digit, magnitude.power - 1⟩ rest
      else magnitude

/-- The nearest number of 53 binary digits and zeros; of two the even one. -/
def rounded (value : Nat) : Nat :=
  let unit := Nat.pow 2 (Nat.log2 value + 1 - 53)
  let below := value / unit
  let rest := value % unit
  if unit < 2 * rest ∨ (unit = 2 * rest ∧ below % 2 = 1) then (below + 1) * unit else below * unit

/-- The least number that is not rounded to a floating-point number. -/
def tooLarge : Nat := Nat.pow 2 1024 - Nat.pow 2 970

/-- The product is beyond all floating-point numbers. -/
def overflows (magnitude : Magnitude) : Bool :=
  magnitude.digits ≠ 0 && (308 < magnitude.power ||
    (0 ≤ magnitude.power &&
      tooLarge ≤ rounded magnitude.digits * rounded (Nat.pow 10 magnitude.power.toNat)))

/-- The exponents that are added to the power; a larger one decides by itself. -/
def exponentLimit : Int := Int.pow 2 31

def overflowsWith (magnitude : Magnitude) (exponent : Int) : Bool :=
  if exponentLimit ≤ exponent then magnitude.digits ≠ 0
  else if exponent ≤ -exponentLimit then false
  else overflows { magnitude with power := magnitude.power + exponent }

end Magnitude

end SsaLens.Json
