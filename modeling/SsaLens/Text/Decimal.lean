/-! # Decimal numerals

Printing a number without leading zeros, and reading a run of ASCII digits. Reading a
printed number gives it back.
-/

namespace SsaLens.Text

/-- The value of an ASCII digit. -/
def digitValue? (c : Char) : Option Nat :=
  if 0x30 ≤ c.toNat ∧ c.toNat ≤ 0x39 then some (c.toNat - 0x30) else none

/-- The value of digits that follow a number already read. -/
def readDigits (value : Nat) : List Char → Option Nat
  | [] => some value
  | c :: rest => (digitValue? c).bind fun digit => readDigits (value * 10 + digit) rest

/-- A non-empty run of ASCII digits as a number; leading zeros are allowed. -/
def readNat? (text : List Char) : Option Nat :=
  if text = [] then none else readDigits 0 text

/-- A line number: a run of ASCII digits whose value fits in 32 bits. -/
def readLine? (text : List Char) : Option UInt32 :=
  (readNat? text).bind fun value => if value < 4294967296 then some (UInt32.ofNat value) else none

/-- The decimal numeral of a number, most significant digit first. -/
def numeral (value : Nat) : List Char := Nat.toDigits 10 value

/-- The decimal numeral as a string. -/
def decimal (value : Nat) : String := String.ofList (numeral value)

/-- A digit is read as the value that it is written for. -/
theorem digitValue?_digitChar {value : Nat} (h : value < 10) :
    digitValue? (Nat.digitChar value) = some value := by
  have : ∀ value < 10, digitValue? (Nat.digitChar value) = some value := by decide
  exact this value h

/-- Digits are read from left to right. -/
theorem readDigits_append (value : Nat) (first rest : List Char) :
    readDigits value (first ++ rest) = (readDigits value first).bind (readDigits · rest) := by
  induction first generalizing value with
  | nil => rfl
  | cons c tail ih => cases h : digitValue? c <;> simp [readDigits, h, ih]

/-- The digits that are written for a number are read as the number. -/
theorem readDigits_numeral (value : Nat) : readDigits 0 (numeral value) = some value := by
  induction value using Nat.strongRecOn with
  | ind value ih =>
      rw [numeral, Nat.toDigits_eq_if (by decide)]
      split
      next h => simp [readDigits, digitValue?_digitChar h]
      next h =>
        rw [readDigits_append, ← numeral, ih (value / 10) (by omega)]
        simp only [readDigits, Option.bind_some,
          digitValue?_digitChar (Nat.mod_lt value (by decide : 0 < 10))]
        congr 1
        omega

theorem numeral_ne_nil (value : Nat) : numeral value ≠ [] := by
  rw [numeral, Nat.toDigits_eq_if (by decide)]; split <;> simp

/-- A number is read from its numeral. -/
@[simp] theorem readNat?_numeral (value : Nat) : readNat? (numeral value) = some value := by
  simp [readNat?, numeral_ne_nil, readDigits_numeral]

/-- A line number is read from its numeral. -/
@[simp] theorem readLine?_numeral (line : UInt32) : readLine? (numeral line.toNat) = some line := by
  simp [readLine?, line.toNat_lt]

end SsaLens.Text
