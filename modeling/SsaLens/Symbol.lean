import SsaLens.Text.Find

/-! # Symbols

A function is asked for as `pkg.Function`, `(Type).Method` or `(*Type).Method`; the compiler
prints it without the package.
-/

namespace SsaLens.Symbol

open Text

/-- A parenthesis, a later `).` and something after it, all in one line. -/
def isMethod : List Char → Bool
  | '(' :: rest =>
      !rest.contains '\n' && match split? [')', '.'] rest with
        | some (_, found) => 2 < found.length
        | none => false
  | _ => false

/-- The part after the last point, or the whole text when it has none. -/
def afterLastPoint (text : List Char) : List Char :=
  (text.reverse.takeWhile (· ≠ '.')).reverse

/-- The name that the compiler prints: methods as they are, functions without their package. -/
def bareChars (identifier : List Char) : List Char :=
  if isMethod identifier then identifier else afterLastPoint identifier

def bare (identifier : String) : String := String.ofList (bareChars identifier.toList)

/-- The value of the environment variable that asks the compiler for a dump. -/
def request (identifier : String) : String := identifier ++ "+"

end SsaLens.Symbol
