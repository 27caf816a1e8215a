import LineTally.Proofs.Text.Utf8
import LineTally.Text.Lowercase
import Mathlib.Data.List.Forall2

/-!
# Lower case and ASCII

In a text of ASCII every character is one byte, and lower-casing the text lower-cases each of them
by itself.  So two such texts have one lower-case form if they agree byte by byte, up to the case of
letters.
-/

namespace LineTally.Text

open Utf8

/-- All characters of the text are of ASCII. -/
def IsAscii (text : String) : Prop :=
  ∀ char ∈ text.toList, char.toNat < 0x80

instance (text : String) : Decidable (IsAscii text) :=
  List.decidableBAll (fun char : Char => char.toNat < 0x80) text.toList

theorem IsAscii.append {first second : String} (before : IsAscii first) (after : IsAscii second) :
    IsAscii (first ++ second) := by
  intro char member
  rw [String.toList_append, List.mem_append] at member
  exact member.elim (before char) (after char)

/-! ## The bytes of a text -/

theorem encodeChar_of_ascii {char : Char} (ascii : char.toNat < 0x80) :
    String.utf8EncodeChar char = [UInt8.ofNat char.toNat] := by
  have code : char.val.toNat = char.toNat := rfl
  rw [String.utf8EncodeChar]
  simp only [code]
  rw [if_pos (by omega)]

theorem toNat_char_ofNat {number : Nat} (ascii : number < 0x80) :
    (Char.ofNat number).toNat = number := by
  have valid : number.isValidChar := Or.inl (by omega)
  rw [Char.ofNat, dif_pos valid]
  rfl

/-- The bytes of a text of ASCII are its characters. -/
theorem encode_of_ascii {text : String} (ascii : IsAscii text) :
    encode text = text.toList.map fun char => UInt8.ofNat char.toNat := by
  rw [encode_eq_flatMap, ← List.flatMap_pure_eq_map]
  exact List.flatMap_congr fun char member => encodeChar_of_ascii (ascii char member)

/-- A text whose bytes are of ASCII is what they are read back as. -/
theorem isAscii_of_encode {text : String} (ascii : ∀ byte ∈ encode text, byte.toNat < 0x80) :
    IsAscii text := by
  have read {bytes : List UInt8} (ascii : ∀ byte ∈ bytes, byte.toNat < 0x80) :
      decodeStrict bytes = some (bytes.map fun byte => Char.ofNat byte.toNat) := by
    rw [decodeStrict]
    induction bytes with
    | nil => rfl
    | cons byte rest ih =>
        have lead : Lead.ofByte byte = .single (Char.ofNat byte.toNat) :=
          if_pos (ascii byte List.mem_cons_self)
        have rest := ih fun other member => ascii other (List.mem_cons_of_mem _ member)
        rw [decodeStrictFrom, lead, rest]
        rfl
  have chars : text.toList = (encode text).map fun byte => Char.ofNat byte.toNat :=
    Option.some.inj ((decodeStrict_encode text).symm.trans (read ascii))
  intro char member
  rw [chars] at member
  rcases List.mem_map.mp member with ⟨byte, within, rfl⟩
  have small := ascii byte within
  rwa [toNat_char_ofNat small]

/-! ## The case of letters -/

/-- Two bytes are equal up to the case of a letter: the capital letters of ASCII lie between 0x41
and 0x5A, and the small ones 0x20 behind them. -/
def SameLetter (left right : UInt8) : Prop :=
  left = right ∨ (0x41 ≤ left ∧ left ≤ 0x5A ∧ right = left + 0x20) ∨
    0x41 ≤ right ∧ right ≤ 0x5A ∧ left = right + 0x20

instance : DecidableRel SameLetter := fun left right =>
  inferInstanceAs (Decidable (left = right ∨ _ ∨ _))

theorem toNat_lowerAscii (char : Char) : (lowerAscii char).toNat =
    if 0x41 ≤ char.toNat ∧ char.toNat ≤ 0x5A then char.toNat + 0x20 else char.toNat := by
  have capital : ('A' ≤ char ∧ char ≤ 'Z') ↔ 0x41 ≤ char.toNat ∧ char.toNat ≤ 0x5A := Iff.rfl
  rw [lowerAscii]
  simp only [capital]
  split
  next capital => exact toNat_char_ofNat (by omega)
  next => rfl

theorem sameLetter_iff_toNat {left right : UInt8} : SameLetter left right ↔
    left.toNat = right.toNat ∨
      (0x41 ≤ left.toNat ∧ left.toNat ≤ 0x5A ∧ right.toNat = left.toNat + 0x20) ∨
      0x41 ≤ right.toNat ∧ right.toNat ≤ 0x5A ∧ left.toNat = right.toNat + 0x20 := by
  have later {byte : UInt8} (capital : byte.toNat ≤ 0x5A) :
      (byte + 0x20).toNat = byte.toNat + 0x20 := by
    rw [UInt8.toNat_add]
    exact Nat.mod_eq_of_lt (by have : (0x20 : UInt8).toNat = 0x20 := rfl; omega)
  unfold SameLetter
  simp only [UInt8.le_iff_toNat_le, ← UInt8.toNat_inj]
  have first : (0x41 : UInt8).toNat = 0x41 := rfl
  have last : (0x5A : UInt8).toNat = 0x5A := rfl
  rw [first, last]
  grind

theorem SameLetter.toNat_lt {left right : UInt8} (same : SameLetter left right)
    (ascii : left.toNat < 0x80) : right.toNat < 0x80 := by
  rcases sameLetter_iff_toNat.mp same with equal | capital | small <;> omega

/-- Characters of ASCII have one lower-case form if they are equal up to the case of a letter. -/
theorem lowerAscii_eq_iff {left right : Char} (leftAscii : left.toNat < 0x80)
    (rightAscii : right.toNat < 0x80) : lowerAscii left = lowerAscii right ↔
      SameLetter (UInt8.ofNat left.toNat) (UInt8.ofNat right.toNat) := by
  rw [sameLetter_iff_toNat, toNat_ofNat (by omega), toNat_ofNat (by omega), ← Char.toNat_inj,
    toNat_lowerAscii, toNat_lowerAscii]
  split_ifs <;> omega

/-- Two texts agree byte by byte, up to the case of letters. -/
def SameLetters (left right : List UInt8) : Prop :=
  List.Forall₂ SameLetter left right

instance : DecidableRel SameLetters := fun left right =>
  inferInstanceAs (Decidable (List.Forall₂ SameLetter left right))

theorem SameLetters.isAscii {first second : String}
    (same : SameLetters (encode first) (encode second)) (ascii : IsAscii first) :
    IsAscii second := by
  have small : ∀ byte ∈ encode first, byte.toNat < 0x80 := by
    rw [encode_of_ascii ascii, List.forall_mem_map]
    intro char member
    have below := ascii char member
    rwa [toNat_ofNat (by omega)]
  apply isAscii_of_encode
  intro byte member
  rcases List.mem_iff_getElem.mp member with ⟨index, inside, rfl⟩
  rcases List.forall₂_iff_get.mp same with ⟨length, each⟩
  have agrees := each index (length ▸ inside) inside
  exact agrees.toNat_lt (small _ (List.get_mem _ _))

/-- Lower-casing a text of ASCII lower-cases each character by itself. -/
theorem lowercaseFrom_of_ascii {text : List Char} (ascii : ∀ char ∈ text, char.toNat < 0x80)
    (before : List Char) : lowercaseFrom before text = text.map lowerAscii := by
  induction text generalizing before with
  | nil => rfl
  | cons char rest ih =>
      rw [lowercaseFrom_cons, lowerIn_of_ascii (ascii char List.mem_cons_self),
        ih fun other member => ascii other (List.mem_cons_of_mem _ member)]
      rfl

/-- Stretches of ASCII have one lower-case form if they agree byte by byte. -/
theorem map_lowerAscii_eq_iff {left right : List Char}
    (leftAscii : ∀ char ∈ left, char.toNat < 0x80)
    (rightAscii : ∀ char ∈ right, char.toNat < 0x80) :
    left.map lowerAscii = right.map lowerAscii ↔
      SameLetters (left.map fun char => UInt8.ofNat char.toNat)
        (right.map fun char => UInt8.ofNat char.toNat) := by
  induction left generalizing right with
  | nil => cases right <;> simp [SameLetters]
  | cons char rest ih =>
      cases right with
      | nil => simp [SameLetters]
      | cons other others =>
          rw [List.forall_mem_cons] at leftAscii rightAscii
          have first := lowerAscii_eq_iff leftAscii.1 rightAscii.1
          have later := ih leftAscii.2 rightAscii.2
          rw [List.map_cons, List.map_cons, List.cons_eq_cons, first, later]
          exact List.forall₂_cons.symm

end LineTally.Text
