/-! # UTF-8

Decoding of bytes into characters. Where the bytes are not UTF-8, the longest sequence that
could have begun a character is one undecodable piece.
-/

namespace SsaLens.Text.Utf8

/-- A decoded character, or a sequence of bytes that is none. -/
inductive Piece where
  | char (c : Char)
  | undecodable (bytes : List UInt8)
  deriving DecidableEq, Repr

/-- A character begun: its bytes so far in reverse, the bits they carry, how many bytes are
still due, and the range of the next one. -/
structure Begun where
  bytes : List UInt8
  bits : Nat
  due : Nat
  low : Nat := 0x80
  high : Nat := 0xbf

/-- The first byte of a character: a whole character, a begun one, or neither. -/
def begin (byte : UInt8) : List Piece × Option Begun :=
  let value := byte.toNat
  let start (bits due low high : Nat) : List Piece × Option Begun :=
    ([], some ⟨[byte], bits, due, low, high⟩)
  if value ≤ 0x7f then ([.char (Char.ofNat value)], none)
  else if 0xc2 ≤ value ∧ value ≤ 0xdf then start (value - 0xc0) 1 0x80 0xbf
  else if value = 0xe0 then start 0 2 0xa0 0xbf
  else if value = 0xed then start 0xd 2 0x80 0x9f
  else if 0xe1 ≤ value ∧ value ≤ 0xef then start (value - 0xe0) 2 0x80 0xbf
  else if value = 0xf0 then start 0 3 0x90 0xbf
  else if 0xf1 ≤ value ∧ value ≤ 0xf3 then start (value - 0xf0) 3 0x80 0xbf
  else if value = 0xf4 then start 4 3 0x80 0x8f
  else ([.undecodable [byte]], none)

/-- The next byte: it continues the begun character, or ends it undecoded and begins another. -/
def feed (begun : Option Begun) (byte : UInt8) : List Piece × Option Begun :=
  match begun with
  | none => begin byte
  | some held =>
      if held.low ≤ byte.toNat ∧ byte.toNat ≤ held.high then
        let bits := held.bits * 64 + (byte.toNat - 0x80)
        if held.due = 1 then ([.char (Char.ofNat bits)], none)
        else ([], some ⟨byte :: held.bytes, bits, held.due - 1, 0x80, 0xbf⟩)
      else
        let (pieces, next) := begin byte
        (.undecodable held.bytes.reverse :: pieces, next)

/-- The pieces of bytes that follow a begun character. -/
def decodeFrom (begun : Option Begun) : List UInt8 → List Piece
  | [] => (begun.map fun held => Piece.undecodable held.bytes.reverse).toList
  | byte :: rest => (feed begun byte).1 ++ decodeFrom (feed begun byte).2 rest

def decode (bytes : List UInt8) : List Piece := decodeFrom none bytes

/-- The character that stands for a piece; undecodable bytes have a replacement character. -/
def Piece.shown : Piece → Char
  | char c => c
  | undecodable _ => '\ufffd'

def Piece.char? : Piece → Option Char
  | char c => some c
  | undecodable _ => none

/-- Bytes as text, with a replacement character for each undecodable piece. -/
def lossy (bytes : List UInt8) : String := String.ofList ((decode bytes).map Piece.shown)

/-- Bytes as text, if all of them can be decoded. -/
def text? (bytes : List UInt8) : Option String :=
  ((decode bytes).mapM Piece.char?).map String.ofList

/-- The bytes of a text. -/
def encode (text : String) : List UInt8 := text.toList.flatMap String.utf8EncodeChar

end SsaLens.Text.Utf8
