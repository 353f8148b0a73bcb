import SsaLens.Text.Utf8

/-! # Reading back encoded texts

The bytes of a text are decoded as its characters. Both readers, the one that replaces undecodable
bytes and the one that refuses them, give the text back.
-/

namespace SsaLens.Text.Utf8

/-- A byte that carries the last six bits of a value. -/
def tail (value : Nat) : UInt8 := UInt8.ofNat (value % 64 + 128)

theorem toNat_ofNat {value : Nat} (h : value < 256) : (UInt8.ofNat value).toNat = value :=
  UInt8.toNat_ofNat_of_lt' h

theorem toNat_tail (value : Nat) : (tail value).toNat = value % 64 + 128 :=
  toNat_ofNat (by omega)

/-! ## First bytes -/

theorem begin_one {value : Nat} (h : value ≤ 0x7f) :
    begin (UInt8.ofNat value) = ([.char (Char.ofNat value)], none) := by
  simp only [begin, toNat_ofNat (show value < 256 by omega), if_pos h]

theorem begin_two {value : Nat} (hlow : 0xc2 ≤ value) (hhigh : value ≤ 0xdf) :
    begin (UInt8.ofNat value) =
      ([], some ⟨[UInt8.ofNat value], value - 0xc0, 1, 0x80, 0xbf⟩) := by
  have hone : ¬ value ≤ 0x7f := by omega
  simp only [begin, toNat_ofNat (show value < 256 by omega), if_neg hone, if_pos (And.intro hlow hhigh)]

theorem begin_three {value : Nat} (hlow : 0xe0 ≤ value) (hhigh : value ≤ 0xef) :
    begin (UInt8.ofNat value) =
      ([], some ⟨[UInt8.ofNat value], value - 0xe0, 2, if value = 0xe0 then 0xa0 else 0x80,
        if value = 0xed then 0x9f else 0xbf⟩) := by
  have hone : ¬ value ≤ 0x7f := by omega
  have htwo : ¬ (0xc2 ≤ value ∧ value ≤ 0xdf) := by omega
  simp only [begin, toNat_ofNat (show value < 256 by omega), if_neg hone, if_neg htwo]
  by_cases he0 : value = 0xe0
  · simp [he0]
  · by_cases hed : value = 0xed
    · simp [hed]
    · have hrange : 0xe1 ≤ value ∧ value ≤ 0xef := by omega
      simp [he0, hed, hrange]

theorem begin_four {value : Nat} (hlow : 0xf0 ≤ value) (hhigh : value ≤ 0xf4) :
    begin (UInt8.ofNat value) =
      ([], some ⟨[UInt8.ofNat value], value - 0xf0, 3, if value = 0xf0 then 0x90 else 0x80,
        if value = 0xf4 then 0x8f else 0xbf⟩) := by
  have hone : ¬ value ≤ 0x7f := by omega
  have htwo : ¬ (0xc2 ≤ value ∧ value ≤ 0xdf) := by omega
  have hthree : ¬ (0xe1 ≤ value ∧ value ≤ 0xef) := by omega
  have he0 : ¬ value = 0xe0 := by omega
  have hed : ¬ value = 0xed := by omega
  simp only [begin, toNat_ofNat (show value < 256 by omega), if_neg hone, if_neg htwo, if_neg hthree,
    if_neg he0, if_neg hed]
  by_cases hf0 : value = 0xf0
  · simp [hf0]
  · by_cases hf4 : value = 0xf4
    · simp [hf4]
    · have hrange : 0xf1 ≤ value ∧ value ≤ 0xf3 := by omega
      simp [hf0, hf4, hrange]

/-! ## Further bytes -/

section Continued

variable {held : Begun} {value : Nat} (rest : List UInt8)

theorem decodeFrom_begin {byte : UInt8} (h : begin byte = ([], some held)) :
    decodeFrom none (byte :: rest) = decodeFrom (some held) rest := by
  rw [decodeFrom, feed, h, List.nil_append]

/-- The last byte of a character. -/
theorem decodeFrom_tail_of_due_one (hdue : held.due = 1) (hbits : held.bits = value / 64)
    (hlow : held.low ≤ value % 64 + 128) (hhigh : value % 64 + 128 ≤ held.high) :
    decodeFrom (some held) (tail value :: rest) =
      .char (Char.ofNat value) :: decodeFrom none rest := by
  have hrange : held.low ≤ (tail value).toNat ∧ (tail value).toNat ≤ held.high := by
    rw [toNat_tail]
    exact ⟨hlow, hhigh⟩
  have hvalue : held.bits * 64 + ((tail value).toNat - 0x80) = value := by
    rw [toNat_tail, hbits]
    omega
  rw [decodeFrom, feed]
  simp only [if_pos hrange, if_pos hdue, hvalue]
  rfl

/-- A byte that is not the last one. -/
theorem decodeFrom_tail (hdue : held.due ≠ 1) (hbits : held.bits = value / 64)
    (hlow : held.low ≤ value % 64 + 128) (hhigh : value % 64 + 128 ≤ held.high) :
    decodeFrom (some held) (tail value :: rest) =
      decodeFrom (some ⟨tail value :: held.bytes, value, held.due - 1, 0x80, 0xbf⟩) rest := by
  have hrange : held.low ≤ (tail value).toNat ∧ (tail value).toNat ≤ held.high := by
    rw [toNat_tail]
    exact ⟨hlow, hhigh⟩
  have hvalue : held.bits * 64 + ((tail value).toNat - 0x80) = value := by
    rw [toNat_tail, hbits]
    omega
  rw [decodeFrom, feed]
  simp only [if_pos hrange, if_neg hdue, hvalue, List.nil_append]

end Continued

/-! ## Whole characters -/

theorem encodeChar_eq (c : Char) : String.utf8EncodeChar c =
    let value := c.toNat
    if value ≤ 0x7f then [UInt8.ofNat value]
    else if value ≤ 0x7ff then [UInt8.ofNat (value / 64 % 32 + 0xc0), tail value]
    else if value ≤ 0xffff then
      [UInt8.ofNat (value / 64 / 64 % 16 + 0xe0), tail (value / 64), tail value]
    else [UInt8.ofNat (value / 64 / 64 / 64 % 8 + 0xf0), tail (value / 64 / 64), tail (value / 64),
      tail value] := by
  simp only [String.utf8EncodeChar, Nat.div_div_eq_div_mul]
  rfl

section Characters

variable {value : Nat} (rest : List UInt8)

theorem decodeFrom_two (hlow : 0x80 ≤ value) (hhigh : value ≤ 0x7ff) :
    decodeFrom none (UInt8.ofNat (value / 64 % 32 + 0xc0) :: tail value :: rest) =
      .char (Char.ofNat value) :: decodeFrom none rest := by
  rw [decodeFrom_begin _ (begin_two (by omega) (by omega))]
  exact decodeFrom_tail_of_due_one rest rfl (by dsimp only; omega) (by dsimp only; omega)
    (by dsimp only; omega)

theorem decodeFrom_three (hlow : 0x800 ≤ value) (hhigh : value ≤ 0xffff)
    (hvalid : value < 0xd800 ∨ 0xdfff < value) :
    decodeFrom none (UInt8.ofNat (value / 64 / 64 % 16 + 0xe0) :: tail (value / 64) :: tail value ::
      rest) = .char (Char.ofNat value) :: decodeFrom none rest := by
  rw [decodeFrom_begin _ (begin_three (by omega) (by omega))]
  -- the bounds of the second byte keep out short values and halves of characters
  rw [decodeFrom_tail _ (show 2 ≠ 1 by decide) (by dsimp only; omega) (by dsimp only; split <;> omega)
    (by dsimp only; split <;> omega)]
  exact decodeFrom_tail_of_due_one rest rfl rfl (by dsimp only; omega) (by dsimp only; omega)

theorem decodeFrom_four (hlow : 0x10000 ≤ value) (hhigh : value < 0x110000) :
    decodeFrom none (UInt8.ofNat (value / 64 / 64 / 64 % 8 + 0xf0) :: tail (value / 64 / 64) ::
      tail (value / 64) :: tail value :: rest) =
        .char (Char.ofNat value) :: decodeFrom none rest := by
  rw [decodeFrom_begin _ (begin_four (by omega) (by omega))]
  rw [decodeFrom_tail _ (show 3 ≠ 1 by decide) (by dsimp only; omega) (by dsimp only; split <;> omega)
    (by dsimp only; split <;> omega)]
  rw [decodeFrom_tail _ (show 2 ≠ 1 by decide) rfl (by dsimp only; omega) (by dsimp only; omega)]
  exact decodeFrom_tail_of_due_one rest rfl rfl (by dsimp only; omega) (by dsimp only; omega)

/-- The bytes of a character are decoded as it, whatever follows. -/
theorem decodeFrom_encodeChar (c : Char) :
    decodeFrom none (String.utf8EncodeChar c ++ rest) = .char c :: decodeFrom none rest := by
  have hvalid : c.toNat < 0xd800 ∨ 0xdfff < c.toNat ∧ c.toNat < 0x110000 := c.valid
  have hchar : Piece.char c = .char (Char.ofNat c.toNat) := by rw [Char.ofNat_toNat]
  rw [encodeChar_eq, hchar]
  dsimp only
  split
  next hone => rw [List.singleton_append, decodeFrom, feed, begin_one hone]; rfl
  next hone =>
    split
    next htwo => exact decodeFrom_two rest (by omega) htwo
    next htwo =>
      split
      next hthree => exact decodeFrom_three rest (by omega) hthree (by omega)
      next hthree => exact decodeFrom_four rest (by omega) (by omega)

end Characters

/-! ## Texts -/

theorem decode_encode (text : String) : decode (encode text) = text.toList.map .char := by
  rw [decode, encode]
  induction text.toList with
  | nil => rfl
  | cons c rest ih => rw [List.flatMap_cons, decodeFrom_encodeChar, ih, List.map_cons]

theorem lossy_encode (text : String) : lossy (encode text) = text := by
  have hshown : (text.toList.map Piece.char).map Piece.shown = text.toList := by
    rw [List.map_map]
    exact List.map_id _
  rw [lossy, decode_encode, hshown, String.ofList_toList]

/-- Every text is read back from its bytes. -/
theorem text?_encode (text : String) : text? (encode text) = some text := by
  have hchars : (text.toList.map Piece.char).mapM Piece.char? = some text.toList := by
    induction text.toList with
    | nil => rfl
    | cons c rest ih => rw [List.map_cons, List.mapM_cons, ih]; rfl
  rw [text?, decode_encode, hchars, Option.map_some, String.ofList_toList]

end SsaLens.Text.Utf8
