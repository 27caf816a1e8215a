import LineTally.Proofs.Text.Utf8

/-!
# Strict decoding reads nothing but characters

The automaton that decodes UTF-8 knows bounds for the first two bytes of a character, which rule out
overlong forms, surrogates and numbers above the last character.  Within these bounds every path
through it is the bytes of one character, and so strict decoding gives only texts with the bytes
that it read.
-/

namespace LineTally.Text.Utf8

/-- The bytes that may come next continue some character. -/
structure Partial.Proper (inside : Partial) : Prop where
  /-- No byte that stands for itself continues a character. -/
  above : 0x80 ≤ inside.least
  below : inside.greatest ≤ 0xBF
  /-- Some byte continues it. -/
  room : inside.least ≤ inside.greatest

/-- Between the last bytes of a character, every one that continues any character is allowed. -/
theorem Partial.Proper.further (bits after : Nat) :
    Partial.Proper ⟨bits, after, 0x80, 0xBF⟩ where
  above := UInt8.le_refl 0x80
  below := UInt8.le_refl 0xBF
  room := (by decide : (0x80 : UInt8) ≤ 0xBF)

/-- The first bytes of the characters of two, three and four bytes, and what may come behind. -/
inductive Opening : UInt8 → Partial → Prop where
  | two {high : Nat} (least : 2 ≤ high) (greatest : high < 32) :
      Opening (UInt8.ofNat (high + 192)) ⟨high, 0, 0x80, 0xBF⟩
  /-- Neither a number that two bytes could hold, nor that of a surrogate. -/
  | three {high : Nat} {least greatest : UInt8} (small : high < 16)
      (proper : Partial.Proper ⟨high, 1, least, greatest⟩) (needed : high = 0 → 0xA0 ≤ least.toNat)
      (whole : high = 13 → greatest.toNat < 0xA0) :
      Opening (UInt8.ofNat (high + 224)) ⟨high, 1, least, greatest⟩
  /-- Neither a number that three bytes could hold, nor one above the last character. -/
  | four {high : Nat} {least greatest : UInt8} (small : high < 5)
      (proper : Partial.Proper ⟨high, 2, least, greatest⟩) (needed : high = 0 → 0x90 ≤ least.toNat)
      (last : high = 4 → greatest.toNat < 0x90) :
      Opening (UInt8.ofNat (high + 240)) ⟨high, 2, least, greatest⟩

theorem Opening.proper {byte : UInt8} {inside : Partial} (opening : Opening byte inside) :
    inside.Proper := by
  cases opening with
  | two => exact .further _ 0
  | three _ proper | four _ proper => exact proper

/-- Every byte that opens a character is the first of two, three or four. -/
theorem Opening.of_ofByte {byte : UInt8} {inside : Partial}
    (opens : Lead.ofByte byte = .opens inside) : Opening byte inside := by
  have own : UInt8.ofNat byte.toNat = byte := UInt8.ofNat_toNat
  simp only [Lead.ofByte] at opens
  generalize byte.toNat = number at own opens
  subst own
  split at opens
  · cases opens
  split at opens
  · cases opens
  split at opens
  next two =>
    obtain rfl := Lead.opens.inj opens
    obtain ⟨high, rfl⟩ : ∃ high, number = high + 192 := ⟨number - 192, by omega⟩
    rw [Nat.add_sub_cancel]
    exact .two (by omega) (by omega)
  split at opens
  next first =>
    cases opens
    subst first
    have opening : Opening (UInt8.ofNat (0 + 224)) ⟨0, 1, 0xA0, 0xBF⟩ :=
      .three (by decide) (by constructor <;> decide) (fun _ => Nat.le_refl _) (by decide)
    exact opening
  split at opens
  next surrogates =>
    cases opens
    subst surrogates
    have opening : Opening (UInt8.ofNat (13 + 224)) ⟨13, 1, 0x80, 0x9F⟩ :=
      .three (by decide) (by constructor <;> decide) (by decide) (fun _ => Nat.le_refl _)
    exact opening
  split at opens
  next three =>
    obtain rfl := Lead.opens.inj opens
    obtain ⟨high, rfl⟩ : ∃ high, number = high + 224 := ⟨number - 224, by omega⟩
    rw [Nat.add_sub_cancel]
    exact .three (by omega) (.further _ _) (by omega) (by omega)
  split at opens
  next first =>
    cases opens
    subst first
    have opening : Opening (UInt8.ofNat (0 + 240)) ⟨0, 2, 0x90, 0xBF⟩ :=
      .four (by decide) (by constructor <;> decide) (fun _ => Nat.le_refl _) (by decide)
    exact opening
  split at opens
  next four =>
    obtain rfl := Lead.opens.inj opens
    obtain ⟨high, rfl⟩ : ∃ high, number = high + 240 := ⟨number - 240, by omega⟩
    rw [Nat.add_sub_cancel]
    exact .four (by omega) (.further _ _) (by omega) (by omega)
  split at opens
  next last =>
    cases opens
    subst last
    have opening : Opening (UInt8.ofNat (4 + 240)) ⟨4, 2, 0x80, 0x8F⟩ :=
      .four (by decide) (by constructor <;> decide) (by decide) (fun _ => Nat.le_refl _)
    exact opening
  · cases opens

section Characters

theorem length_encodeChar_pos (char : Char) : 0 < (String.utf8EncodeChar char).length := by
  rw [String.length_utf8EncodeChar]
  exact char.utf8Size_pos

theorem toNat_val_ofNat {number : Nat} (valid : number.isValidChar) :
    (Char.ofNat number).val.toNat = number := by
  rw [Char.ofNat, dif_pos valid]
  exact UInt32.toNat_ofNatLT

variable {high second third low : Nat}

theorem encodeChar_single {byte : UInt8} {char : Char} (lead : Lead.ofByte byte = .single char) :
    String.utf8EncodeChar char = [byte] := by
  simp only [Lead.ofByte] at lead
  split at lead
  next one =>
    cases lead
    have valid : byte.toNat.isValidChar := .inl (by omega)
    simp only [String.utf8EncodeChar, toNat_val_ofNat valid]
    rw [if_pos (by omega), UInt8.ofNat_toNat]
  · repeat' split at lead
    all_goals cases lead

theorem encodeChar_two (least : 2 ≤ high) (greatest : high < 32) (small : low < 64) :
    String.utf8EncodeChar (Char.ofNat (high * 64 + low)) =
      [UInt8.ofNat (high + 192), UInt8.ofNat (low + 128)] := by
  have first : (high * 64 + low) / 64 % 32 = high := by omega
  have last : (high * 64 + low) % 64 = low := by omega
  have valid : (high * 64 + low).isValidChar := .inl (by omega)
  simp only [String.utf8EncodeChar, toNat_val_ofNat valid, first, last]
  rw [if_neg (by omega), if_pos (by omega)]

theorem encodeChar_three (greatest : high < 16) (smaller : second < 64) (small : low < 64)
    (needed : high = 0 → 32 ≤ second) (whole : high = 13 → second < 32) :
    String.utf8EncodeChar (Char.ofNat ((high * 64 + second) * 64 + low)) =
      [UInt8.ofNat (high + 224), UInt8.ofNat (second + 128), UInt8.ofNat (low + 128)] := by
  have first : ((high * 64 + second) * 64 + low) / 4096 % 16 = high := by omega
  have middle : ((high * 64 + second) * 64 + low) / 64 % 64 = second := by omega
  have last : ((high * 64 + second) * 64 + low) % 64 = low := by omega
  have valid : ((high * 64 + second) * 64 + low).isValidChar := by
    by_cases below : high < 13
    · exact .inl (by omega)
    · by_cases surrogates : high = 13
      · have := whole surrogates
        exact .inl (by omega)
      · exact .inr (by omega)
  simp only [String.utf8EncodeChar, toNat_val_ofNat valid, first, middle, last]
  rw [if_neg (by omega), if_neg (by omega), if_pos (by omega)]

theorem encodeChar_four (greatest : high < 5) (smaller : second < 64) (smallest : third < 64)
    (small : low < 64) (needed : high = 0 → 16 ≤ second) (top : high = 4 → second < 16) :
    String.utf8EncodeChar (Char.ofNat (((high * 64 + second) * 64 + third) * 64 + low)) =
      [UInt8.ofNat (high + 240), UInt8.ofNat (second + 128), UInt8.ofNat (third + 128),
        UInt8.ofNat (low + 128)] := by
  generalize number : ((high * 64 + second) * 64 + third) * 64 + low = code
  have first : code / 262144 % 8 = high := by omega
  have early : code / 4096 % 64 = second := by omega
  have middle : code / 64 % 64 = third := by omega
  have last : code % 64 = low := by omega
  have valid : code.isValidChar := .inr (by omega)
  simp only [String.utf8EncodeChar, toNat_val_ofNat valid, first, early, middle, last]
  rw [if_neg (by omega), if_neg (by omega), if_neg (by omega)]

end Characters

section Inversion

variable {bits after : Nat} {least greatest : UInt8} {bytes : List UInt8} {chars : List Char}

/-- A byte that continues a character adds six bits. -/
theorem eq_ofNat_of_within {byte : UInt8} {inside : Partial} (proper : inside.Proper)
    (within : inside.least ≤ byte ∧ byte ≤ inside.greatest) :
    ∃ low, byte = UInt8.ofNat (low + 128) ∧ byte.toNat - 0x80 = low ∧ low < 64 ∧
      inside.least.toNat ≤ low + 128 ∧ low + 128 ≤ inside.greatest.toNat := by
  have above := UInt8.le_iff_toNat_le.mp proper.above
  have below := UInt8.le_iff_toNat_le.mp proper.below
  have left := UInt8.le_iff_toNat_le.mp within.1
  have right := UInt8.le_iff_toNat_le.mp within.2
  have bound : (0x80 : UInt8).toNat = 128 := rfl
  have bound' : (0xBF : UInt8).toNat = 191 := rfl
  refine ⟨byte.toNat - 128, ?_, rfl, by omega, by omega, by omega⟩
  rw [Nat.sub_add_cancel (by omega), UInt8.ofNat_toNat]

theorem exists_of_decodeStrictFrom_middle
    (proper : Partial.Proper ⟨bits, after + 1, least, greatest⟩)
    (read : decodeStrictFrom (some ⟨bits, after + 1, least, greatest⟩) bytes = some chars) :
    ∃ low rest, bytes = UInt8.ofNat (low + 128) :: rest ∧ low < 64 ∧
      least.toNat ≤ low + 128 ∧ low + 128 ≤ greatest.toNat ∧
      decodeStrictFrom (some ⟨bits * 64 + low, after, 0x80, 0xBF⟩) rest = some chars := by
  cases bytes with
  | nil => cases read
  | cons byte rest =>
      rw [decodeStrictFrom] at read
      split at read
      next within =>
        rcases eq_ofNat_of_within proper within with ⟨low, own, value, small, above, below⟩
        rw [value] at read
        exact ⟨low, rest, by rw [own], small, above, below, read⟩
      · cases read

theorem exists_of_decodeStrictFrom_last (proper : Partial.Proper ⟨bits, 0, least, greatest⟩)
    (read : decodeStrictFrom (some ⟨bits, 0, least, greatest⟩) bytes = some chars) :
    ∃ low rest later, bytes = UInt8.ofNat (low + 128) :: rest ∧ low < 64 ∧
      chars = Char.ofNat (bits * 64 + low) :: later ∧
      decodeStrictFrom none rest = some later := by
  cases bytes with
  | nil => cases read
  | cons byte rest =>
      rw [decodeStrictFrom] at read
      split at read
      next within =>
        rcases eq_ofNat_of_within proper within with ⟨low, own, value, small, -, -⟩
        rw [value] at read
        rcases Option.map_eq_some_iff.mp read with ⟨later, further, rfl⟩
        exact ⟨low, rest, later, by rw [own], small, rfl, further⟩
      · cases read

/-- Behind the first byte of a character stand its other bytes. -/
theorem Opening.exists_char {byte : UInt8} {inside : Partial} (opening : Opening byte inside)
    (read : decodeStrictFrom (some inside) bytes = some chars) :
    ∃ char rest later, byte :: bytes = String.utf8EncodeChar char ++ rest ∧
      chars = char :: later ∧ decodeStrictFrom none rest = some later := by
  cases opening with
  | two least greatest =>
      rcases exists_of_decodeStrictFrom_last (.further _ 0) read with
        ⟨low, rest, later, rfl, small, rfl, further⟩
      refine ⟨_, rest, later, ?_, rfl, further⟩
      rw [encodeChar_two least greatest small]
      rfl
  | @three high least greatest small proper needed whole =>
      rcases exists_of_decodeStrictFrom_middle proper read with
        ⟨second, bytes, rfl, smaller, above, below, read⟩
      rcases exists_of_decodeStrictFrom_last (.further _ 0) read with
        ⟨low, rest, later, rfl, lowest, rfl, further⟩
      refine ⟨_, rest, later, ?_, rfl, further⟩
      have needed (zero : high = 0) : 32 ≤ second := by omega
      have whole (surrogates : high = 13) : second < 32 := by omega
      rw [encodeChar_three small smaller lowest needed whole]
      rfl
  | @four high least greatest small proper needed top =>
      rcases exists_of_decodeStrictFrom_middle proper read with
        ⟨second, bytes, rfl, smaller, above, below, read⟩
      rcases exists_of_decodeStrictFrom_middle (.further _ 1) read with
        ⟨third, bytes, rfl, smallest, -, -, read⟩
      rcases exists_of_decodeStrictFrom_last (.further _ 0) read with
        ⟨low, rest, later, rfl, lowest, rfl, further⟩
      refine ⟨_, rest, later, ?_, rfl, further⟩
      have needed (zero : high = 0) : 16 ≤ second := by omega
      have top (last : high = 4) : second < 16 := by omega
      rw [encodeChar_four small smaller smallest lowest needed top]
      rfl

end Inversion

/-- What strict decoding reads has the bytes that were read. -/
theorem eq_flatMap_of_decodeStrict {bytes : List UInt8} {chars : List Char}
    (read : decodeStrictFrom none bytes = some chars) :
    bytes = chars.flatMap String.utf8EncodeChar := by
  cases bytes with
  | nil =>
      cases read
      rfl
  | cons byte bytes =>
      rw [decodeStrictFrom] at read
      cases lead : Lead.ofByte byte with
      | stray => simp only [lead, reduceCtorEq] at read
      | single char =>
          simp only [lead] at read
          rcases Option.map_eq_some_iff.mp read with ⟨later, further, rfl⟩
          rw [List.flatMap_cons, ← eq_flatMap_of_decodeStrict further, encodeChar_single lead]
          rfl
      | opens inside =>
          simp only [lead] at read
          rcases (Opening.of_ofByte lead).exists_char read with
            ⟨char, rest, later, split, rfl, further⟩
          rw [List.flatMap_cons, ← eq_flatMap_of_decodeStrict further, split]
termination_by chars.length

end LineTally.Text.Utf8
