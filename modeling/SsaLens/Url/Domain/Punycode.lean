/-! # Punycode

A text is written with ASCII characters: first those of its characters that are ASCII already and a
hyphen, then a sequence of numbers, one for each other character. A number counts the states from
the character before it on, where a state is a code point and a place to insert it.
-/

namespace SsaLens.Url.Punycode

/-- The value of a digit. -/
def digit? (c : Char) : Option Nat :=
  if 'a' ≤ c ∧ c ≤ 'z' then some (c.toNat - 0x61)
  else if '0' ≤ c ∧ c ≤ '9' then some (c.toNat - 0x30 + 26)
  else none

def digitChar (value : Nat) : Char :=
  if value < 26 then Char.ofNat (0x61 + value) else Char.ofNat (0x30 + (value - 26))

/-- The digit at a place that is too small to be followed by another one. -/
def threshold (place bias : Nat) : Nat := max 1 (min 26 (place - bias))

theorem threshold_pos (place bias : Nat) : 1 ≤ threshold place bias := by
  unfold threshold; omega

/-- How often a number can be divided by 35 before it is at most 455, and what it is then. -/
def shrink (value : Nat) : Nat × Nat :=
  if 455 < value then ((shrink (value / 35)).1 + 1, (shrink (value / 35)).2) else (0, value)
termination_by value
decreasing_by all_goals exact Nat.div_lt_self (by omega) (by omega)

/-- The bias after a number. The first number is likely to be much larger than the others. -/
def adapt (number count : Nat) (isFirst : Bool) : Nat :=
  let damped := if isFirst then number / 700 else number / 2
  let (steps, rest) := shrink (damped + damped / count)
  36 * steps + 36 * rest / (rest + 38)

/-! ## Reading -/

/-- A text being read: its characters so far, the state that was reached, and how far the number is
that is being read. -/
structure Reading where
  text : List Char
  code : Nat := 128
  place : Nat := 0
  bias : Nat := 72
  number : Nat := 0
  weight : Nat := 1
  position : Nat := 36

/-- Read a digit. Numbers have 32 bits, and a state beyond the last code point is none. -/
def Reading.step (reading : Reading) (c : Char) : Option Reading := do
  let digit ← digit? c
  let number := reading.number + digit * reading.weight
  let low := threshold reading.position reading.bias
  if Nat.pow 2 32 ≤ reading.place + number then none
  else if digit < low then
    let count := reading.text.length + 1
    let code := reading.code + (reading.place + number) / count
    let place := (reading.place + number) % count
    if code.isValidChar then
      pure { text := reading.text.insertIdx place (Char.ofNat code), code, place := place + 1
             bias := adapt number count (reading.place = 0) }
    else none
  else if Nat.pow 2 32 ≤ reading.weight * (36 - low) then none
  else
    pure { reading with number, weight := reading.weight * (36 - low)
                        position := reading.position + 36 }

/-- The text before the last hyphen, and the numbers after it. -/
def halves (written : List Char) : List Char × List Char :=
  let numbers := (written.reverse.takeWhile (· ≠ '-')).reverse
  let first := written.take (written.length - numbers.length - 1)
  if first = [] then ([], written) else (first, numbers)

/-- The text that is written, unless it ends inside a number. -/
def decode? (written : List Char) : Option (List Char) := do
  let (first, numbers) := halves written
  let reading ← numbers.foldlM Reading.step { text := first }
  if reading.position = 36 then some reading.text else none

/-! ## Writing -/

/-- The digits of a number from a position on. -/
def digits (bias position number : Nat) : List Char :=
  if number < threshold position bias then [digitChar number]
  else
    digitChar (threshold position bias +
        (number - threshold position bias) % (36 - threshold position bias)) ::
      digits bias (position + 36)
        ((number - threshold position bias) / (36 - threshold position bias))
termination_by number
decreasing_by
  have := threshold_pos position bias
  have := Nat.div_le_self (number - threshold position bias) (36 - threshold position bias)
  omega

/-- A text being written: how many characters are, how many states have passed since the last one,
the bias, and the digits. -/
structure Writing where
  count : Nat
  passed : Nat := 0
  bias : Nat := 72
  digits : List Char := []

/-- Pass a character of the text in the round of a code point: the states before it pass, and it
is written if it is the one. The number of ASCII characters tells the first time. -/
def Writing.pass (ascii code : Nat) (writing : Writing) (c : Char) : Writing :=
  if c.toNat < code then { writing with passed := writing.passed + 1 }
  else if c.toNat = code then
    { count := writing.count + 1
      bias := adapt writing.passed (writing.count + 1) (writing.count = ascii)
      digits := writing.digits ++ Punycode.digits writing.bias 36 writing.passed }
  else writing

/-- One round for each code point, in ascending order, from a code point on. -/
def rounds (text : List Char) (ascii : Nat) : Nat → List Nat → Writing → Writing
  | _, [], writing => writing
  | next, code :: rest, writing =>
      let waiting := { writing with passed := writing.passed + (code - next) * (writing.count + 1) }
      let written := text.foldl (Writing.pass ascii code) waiting
      rounds text ascii (code + 1) rest { written with passed := written.passed + 1 }

/-- The written form of a text. -/
def encode (text : List Char) : List Char :=
  let ascii := text.filter (·.toNat < 0x80)
  let codes := ((text.filter (0x80 ≤ ·.toNat)).map Char.toNat).mergeSort.eraseReps
  (if ascii = [] then [] else ascii ++ ['-']) ++
    (rounds text ascii.length 128 codes { count := ascii.length }).digits

end SsaLens.Url.Punycode
