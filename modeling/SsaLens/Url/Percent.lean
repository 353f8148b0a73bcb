/-! # Percent encoding

A byte is written as a percent sign and two hexadecimal digits. Which characters are written
that way depends on the part of the URL; control and non-ASCII characters always are.
-/

namespace SsaLens.Percent

def hexDigit (value : Nat) : Char :=
  if value < 10 then Char.ofNat (0x30 + value) else Char.ofNat (0x37 + value)

def hexValue? (c : Char) : Option Nat :=
  if '0' ≤ c ∧ c ≤ '9' then some (c.toNat - 0x30)
  else if 'A' ≤ c ∧ c ≤ 'F' then some (c.toNat - 0x37)
  else if 'a' ≤ c ∧ c ≤ 'f' then some (c.toNat - 0x57)
  else none

def escape (byte : UInt8) : List Char :=
  ['%', hexDigit (byte.toNat / 16), hexDigit (byte.toNat % 16)]

def encodeChar (reserved : List Char) (c : Char) : List Char :=
  if c.toNat < 0x20 ∨ 0x7f ≤ c.toNat ∨ c ∈ reserved then
    (String.utf8EncodeChar c).flatMap escape
  else [c]

/-- Encode the reserved characters of a text. -/
def encode (reserved text : List Char) : List Char := text.flatMap (encodeChar reserved)

/-- The bytes of a text. A percent sign that no two digits follow stands for itself. -/
def decode : List Char → List UInt8
  | '%' :: high :: low :: rest =>
      match hexValue? high, hexValue? low with
      | some first, some second => UInt8.ofNat (16 * first + second) :: decode rest
      | _, _ => 0x25 :: decode (high :: low :: rest)
  | c :: rest => String.utf8EncodeChar c ++ decode rest
  | [] => []

/-! The reserved characters of each part. -/

def fragment : List Char := [' ', '"', '<', '>', '\x60']

def query : List Char := [' ', '"', '#', '<', '>']

def specialQuery : List Char := '\'' :: query

def path : List Char := fragment ++ ['#', '?', '{', '}']

def userinfo : List Char := path ++ ['/', ':', ';', '=', '@', '[', '\\', ']', '^', '|']

end SsaLens.Percent
