import LineTally.Text.Utf8

/-!
# UTF-8 is read back

The bytes of a text are text throughout, and the strict decoder gives back the characters that they
were made from.
-/

namespace LineTally.Text.Utf8

/-- The bytes of a text are those of its characters, one after the other. -/
theorem encode_eq_flatMap (text : String) :
    encode text = text.toList.flatMap String.utf8EncodeChar := by
  rw [encode, String.toUTF8_eq_toByteArray, ← String.utf8Encode_toList, List.utf8Encode]
  simp

theorem toNat_ofNat {number : Nat} (small : number < 256) :
    (UInt8.ofNat number).toNat = number := by
  rw [UInt8.toNat_ofNat']
  exact Nat.mod_eq_of_lt small

/-! ## One byte after the other -/

section Bytes

variable {bits after high low : Nat} {least greatest : UInt8} {rest : List UInt8}

/-- A byte is within bounds if its number is. -/
theorem within_of_toNat (small : low < 64) (above : least.toNat ≤ low + 128)
    (below : low + 128 ≤ greatest.toNat) :
    least ≤ UInt8.ofNat (low + 128) ∧ UInt8.ofNat (low + 128) ≤ greatest := by
  rw [UInt8.le_iff_toNat_le, UInt8.le_iff_toNat_le, toNat_ofNat (by omega)]
  exact ⟨above, below⟩

/-- A byte before the last adds six bits. -/
theorem decodeStrictFrom_middle (small : low < 64) (above : least.toNat ≤ low + 128)
    (below : low + 128 ≤ greatest.toNat) :
    decodeStrictFrom (some ⟨bits, after + 1, least, greatest⟩) (UInt8.ofNat (low + 128) :: rest) =
      decodeStrictFrom (some ⟨bits * 64 + low, after, 0x80, 0xBF⟩) rest := by
  rw [decodeStrictFrom, if_pos (within_of_toNat small above below), toNat_ofNat (by omega),
    Nat.add_sub_cancel]

/-- The last byte completes the character. -/
theorem decodeStrictFrom_last (small : low < 64) :
    decodeStrictFrom (some ⟨bits, 0, 0x80, 0xBF⟩) (UInt8.ofNat (low + 128) :: rest) =
      (decodeStrictFrom none rest).map (Char.ofNat (bits * 64 + low) :: ·) := by
  have above : (0x80 : UInt8).toNat ≤ low + 128 := Nat.le_add_left _ _
  have below : low + 128 ≤ (0xBF : UInt8).toNat :=
    Nat.add_le_of_le_sub (by decide) (Nat.le_of_lt_succ small)
  rw [decodeStrictFrom, if_pos (within_of_toNat small above below), toNat_ofNat (by omega),
    Nat.add_sub_cancel]

/-- The first byte of two. -/
theorem decodeStrictFrom_two (least : 2 ≤ high) (greatest : high < 32) :
    decodeStrictFrom none (UInt8.ofNat (high + 192) :: rest) =
      decodeStrictFrom (some ⟨high, 0, 0x80, 0xBF⟩) rest := by
  have lead : Lead.ofByte (UInt8.ofNat (high + 192)) = .opens ⟨high, 0, 0x80, 0xBF⟩ := by
    simp only [Lead.ofByte, toNat_ofNat (show high + 192 < 256 by omega)]
    rw [if_neg (by omega), if_neg (by omega), if_pos (by omega), Nat.add_sub_cancel]
  rw [decodeStrictFrom, lead]

/-- The first two bytes of three: not of a number that two could hold, nor of a surrogate. -/
theorem decodeStrictFrom_three (greatest : high < 16) (small : low < 64)
    (needed : high = 0 → 32 ≤ low) (whole : high = 13 → low < 32) :
    decodeStrictFrom none (UInt8.ofNat (high + 224) :: UInt8.ofNat (low + 128) :: rest) =
      decodeStrictFrom (some ⟨high * 64 + low, 0, 0x80, 0xBF⟩) rest := by
  have lead : ∃ least greatest : UInt8,
      Lead.ofByte (UInt8.ofNat (high + 224)) = .opens ⟨high, 1, least, greatest⟩ ∧
        least.toNat ≤ low + 128 ∧ low + 128 ≤ greatest.toNat := by
    simp only [Lead.ofByte, toNat_ofNat (show high + 224 < 256 by omega)]
    rw [if_neg (by omega), if_neg (by omega), if_neg (by omega)]
    by_cases zero : high = 0
    · have := needed zero
      subst zero
      exact ⟨0xA0, 0xBF, rfl, by simp; omega, by simp; omega⟩
    · by_cases surrogates : high = 13
      · have := whole surrogates
        subst surrogates
        exact ⟨0x80, 0x9F, rfl, by simp, by simp; omega⟩
      · rw [if_neg (by omega), if_neg (by omega), if_pos (by omega), Nat.add_sub_cancel]
        exact ⟨0x80, 0xBF, rfl, by simp, by simp; omega⟩
  rcases lead with ⟨least, greatest, lead, above, below⟩
  rw [decodeStrictFrom, lead]
  exact decodeStrictFrom_middle small above below

/-- The first two bytes of four: not of a number that three could hold, nor of one too large. -/
theorem decodeStrictFrom_four (greatest : high < 5) (small : low < 64)
    (needed : high = 0 → 16 ≤ low) (last : high = 4 → low < 16) :
    decodeStrictFrom none (UInt8.ofNat (high + 240) :: UInt8.ofNat (low + 128) :: rest) =
      decodeStrictFrom (some ⟨high * 64 + low, 1, 0x80, 0xBF⟩) rest := by
  have lead : ∃ least greatest : UInt8,
      Lead.ofByte (UInt8.ofNat (high + 240)) = .opens ⟨high, 2, least, greatest⟩ ∧
        least.toNat ≤ low + 128 ∧ low + 128 ≤ greatest.toNat := by
    simp only [Lead.ofByte, toNat_ofNat (show high + 240 < 256 by omega)]
    rw [if_neg (by omega), if_neg (by omega), if_neg (by omega), if_neg (by omega),
      if_neg (by omega), if_neg (by omega)]
    by_cases zero : high = 0
    · have := needed zero
      subst zero
      exact ⟨0x90, 0xBF, rfl, by simp; omega, by simp; omega⟩
    · by_cases top : high = 4
      · have := last top
        subst top
        exact ⟨0x80, 0x8F, rfl, by simp, by simp; omega⟩
      · rw [if_neg (by omega), if_pos (by omega), Nat.add_sub_cancel]
        exact ⟨0x80, 0xBF, rfl, by simp, by simp; omega⟩
  rcases lead with ⟨least, greatest, lead, above, below⟩
  rw [decodeStrictFrom, lead]
  exact decodeStrictFrom_middle small above below

end Bytes

/-! ## One character after the other -/

/-- The bytes of a character are read back. -/
theorem decodeStrictFrom_encodeChar (char : Char) (rest : List UInt8) :
    decodeStrictFrom none (String.utf8EncodeChar char ++ rest) =
      (decodeStrictFrom none rest).map (char :: ·) := by
  have whole (code : Nat) (same : code = char.toNat) : Char.ofNat code = char :=
    same ▸ Char.ofNat_toNat char
  have valid : char.toNat < 0xD800 ∨ 0xDFFF < char.toNat ∧ char.toNat < 0x110000 := char.valid
  have code : char.val.toNat = char.toNat := rfl
  rw [String.utf8EncodeChar]
  simp only [code]
  generalize char.toNat = number at *
  split
  next one =>
    have lead : Lead.ofByte (UInt8.ofNat number) = .single (Char.ofNat number) := by
      simp only [Lead.ofByte, toNat_ofNat (show number < 256 by omega)]
      rw [if_pos (by omega)]
    rw [List.singleton_append, decodeStrictFrom, lead, whole number rfl]
  next one =>
    split
    next two =>
      have high : number / 64 % 32 = number / 64 := Nat.mod_eq_of_lt (by omega)
      rw [List.cons_append, List.singleton_append, high,
        decodeStrictFrom_two (by omega) (by omega), decodeStrictFrom_last (by omega),
        whole _ (by omega)]
    next two =>
      split
      next three =>
        have high : number / 4096 % 16 = number / 4096 := Nat.mod_eq_of_lt (by omega)
        rw [List.cons_append, List.cons_append, List.singleton_append, high,
          decodeStrictFrom_three (by omega) (by omega) (by omega) (by omega),
          decodeStrictFrom_last (by omega), whole _ (by omega)]
      next three =>
        have high : number / 262144 % 8 = number / 262144 := Nat.mod_eq_of_lt (by omega)
        rw [List.cons_append, List.cons_append, List.cons_append, List.singleton_append, high,
          decodeStrictFrom_four (by omega) (by omega) (by omega) (by omega),
          decodeStrictFrom_middle (by omega) (by simp) (by simp; omega),
          decodeStrictFrom_last (by omega), whole _ (by omega)]

/-- A text is read back from its bytes. -/
theorem decodeStrict_encode (text : String) : decodeStrict (encode text) = some text.toList := by
  rw [decodeStrict, encode_eq_flatMap]
  induction text.toList with
  | nil => rfl
  | cons char chars ih =>
      rw [List.flatMap_cons, decodeStrictFrom_encodeChar, ih]
      rfl

end LineTally.Text.Utf8
