import LineTally.Proofs.Text.Strict

/-!
# Loose decoding, told from the bytes of characters

Loose decoding goes by an automaton over single bytes.  What it gives is told here without one, from
the bytes that characters have.  Where the bytes of a character stand, that character is read.  Where
none stand, the longest stretch with which some character begins is passed over, or one byte if no
character begins there, and one replacement character takes its place.  No bytes can be read in two
ways by this rule, so it determines what loose decoding gives.
-/

namespace LineTally.Text.Utf8

/-! ## Loose decoding agrees with strict decoding -/

section Steps

variable {bits after : Nat} {byte least greatest : UInt8}

theorem step_last (within : least ≤ byte ∧ byte ≤ greatest) :
    step (some ⟨bits, 0, least, greatest⟩) byte =
      ([Char.ofNat (bits * 64 + (byte.toNat - 0x80))], none) := by
  rw [step, if_pos within]

theorem step_middle (within : least ≤ byte ∧ byte ≤ greatest) :
    step (some ⟨bits, after + 1, least, greatest⟩) byte =
      ([], some ⟨bits * 64 + (byte.toNat - 0x80), after, 0x80, 0xBF⟩) := by
  rw [step, if_pos within]

theorem step_outside {inside : Partial}
    (outside : ¬ (inside.least ≤ byte ∧ byte ≤ inside.greatest)) :
    step (some inside) byte = (replacement :: (start byte).1, (start byte).2) := by
  rw [step, if_neg outside]

end Steps

/-- What strict decoding reads, loose decoding reads too, whatever stands behind it. -/
theorem decodeFrom_append {state : State} {bytes : List UInt8} {chars : List Char}
    (read : decodeStrictFrom state bytes = some chars) (rest : List UInt8) :
    decodeFrom state (bytes ++ rest) = chars ++ decode rest := by
  induction bytes generalizing state chars with
  | nil =>
      cases state with
      | none =>
          cases read
          rfl
      | some inside => cases read
  | cons byte bytes ih =>
      rw [List.cons_append, decodeFrom_cons]
      cases state with
      | none =>
          rw [decodeStrictFrom] at read
          rw [step, start]
          cases lead : Lead.ofByte byte with
          | single char =>
              simp only [lead] at read
              rcases Option.map_eq_some_iff.mp read with ⟨later, further, rfl⟩
              exact congrArg (char :: ·) (ih further)
          | opens inside =>
              simp only [lead] at read
              exact ih read
          | stray => simp only [lead, reduceCtorEq] at read
      | some inside =>
          rcases inside with ⟨bits, after, least, greatest⟩
          rw [decodeStrictFrom] at read
          split at read
          next within =>
            cases after with
            | zero =>
                rcases Option.map_eq_some_iff.mp read with ⟨later, further, rfl⟩
                rw [step_last within, List.singleton_append, ih further]
                rfl
            | succ after =>
                rw [step_middle within]
                exact ih read
          · cases read

theorem decode_encodeChar_append (char : Char) (rest : List UInt8) :
    decode (String.utf8EncodeChar char ++ rest) = char :: decode rest := by
  have read := decodeStrictFrom_encodeChar char []
  rw [List.append_nil] at read
  exact decodeFrom_append read rest

/-- A text is read back from its bytes. -/
theorem decode_encode (text : String) : decode (encode text) = text.toList := by
  have read := decodeFrom_append (decodeStrict_encode text) []
  rwa [List.append_nil, decode_nil, List.append_nil] at read

/-! ## Inside a character -/

/-- Behind some bytes both decoders are inside a character. -/
structure Begun (stretch : List UInt8) (inside : Partial) : Prop where
  proper : inside.Proper
  filled : 0 < stretch.length
  strict (rest : List UInt8) :
    decodeStrictFrom none (stretch ++ rest) = decodeStrictFrom (some inside) rest
  loose (rest : List UInt8) : decode (stretch ++ rest) = decodeFrom (some inside) rest

/-- A character that has begun can be completed. -/
theorem Partial.Proper.exists_completion {inside : Partial} (proper : inside.Proper) :
    ∃ tail char, 0 < tail.length ∧ decodeStrictFrom (some inside) tail = some [char] := by
  rcases inside with ⟨bits, after, least, greatest⟩
  have within : least ≤ least ∧ least ≤ greatest := ⟨UInt8.le_refl least, proper.room⟩
  induction after generalizing bits least greatest with
  | zero =>
      refine ⟨[least], Char.ofNat (bits * 64 + (least.toNat - 0x80)), Nat.one_pos, ?_⟩
      rw [decodeStrictFrom, if_pos within]
      rfl
  | succ after ih =>
      rcases ih (bits * 64 + (least.toNat - 0x80)) 0x80 0xBF (.further _ _)
        ⟨UInt8.le_refl _, by decide⟩ with ⟨tail, char, -, completes⟩
      refine ⟨least :: tail, char, Nat.succ_pos _, ?_⟩
      rw [decodeStrictFrom, if_pos within]
      exact completes

/-- Some character begins with these bytes. -/
def Begins (bytes : List UInt8) : Prop :=
  ∃ char, bytes <+: String.utf8EncodeChar char

namespace Begun

variable {stretch : List UInt8} {inside : Partial} {byte : UInt8}

theorem start (lead : Lead.ofByte byte = .opens inside) : Begun [byte] inside where
  proper := (Opening.of_ofByte lead).proper
  filled := Nat.one_pos
  strict rest := by
    rw [List.singleton_append, decodeStrictFrom, lead]
  loose rest := by
    rw [List.singleton_append, decode, decodeFrom_cons, step, Utf8.start, lead]
    rfl

theorem further {bits after : Nat} {least greatest : UInt8}
    (begun : Begun stretch ⟨bits, after + 1, least, greatest⟩)
    (within : least ≤ byte ∧ byte ≤ greatest) :
    Begun (stretch ++ [byte]) ⟨bits * 64 + (byte.toNat - 0x80), after, 0x80, 0xBF⟩ where
  proper := .further _ _
  filled := by
    rw [List.length_append]
    exact Nat.succ_pos _
  strict rest := by
    rw [List.append_assoc, List.singleton_append, begun.strict, decodeStrictFrom, if_pos within]
  loose rest := by
    rw [List.append_assoc, List.singleton_append, begun.loose, decodeFrom_cons,
      step_middle within]
    rfl

/-- The last byte completes the character. -/
theorem encodeChar_last {bits : Nat} {least greatest : UInt8}
    (begun : Begun stretch ⟨bits, 0, least, greatest⟩) (within : least ≤ byte ∧ byte ≤ greatest) :
    String.utf8EncodeChar (Char.ofNat (bits * 64 + (byte.toNat - 0x80))) = stretch ++ [byte] := by
  have read : decodeStrictFrom none (stretch ++ [byte]) =
      some [Char.ofNat (bits * 64 + (byte.toNat - 0x80))] := by
    rw [begun.strict, decodeStrictFrom, if_pos within]
    rfl
  rw [eq_flatMap_of_decodeStrict read, List.flatMap_singleton]

/-- Some character begins with the bytes, and has more. -/
theorem exists_char (begun : Begun stretch inside) :
    ∃ char tail, 0 < tail.length ∧ String.utf8EncodeChar char = stretch ++ tail := by
  rcases begun.proper.exists_completion with ⟨tail, char, filled, completes⟩
  have whole := eq_flatMap_of_decodeStrict ((begun.strict tail).trans completes)
  rw [List.flatMap_singleton] at whole
  exact ⟨char, tail, filled, whole.symm⟩

theorem begins (begun : Begun stretch inside) : Begins stretch := by
  rcases begun.exists_char with ⟨char, tail, -, whole⟩
  exact ⟨char, tail, whole.symm⟩

/-- No character stands within the bytes. -/
theorem incomplete (begun : Begun stretch inside) (char : Char) :
    ¬ String.utf8EncodeChar char <+: stretch := by
  rintro ⟨more, whole⟩
  rcases begun.exists_char with ⟨longer, tail, filled, whole'⟩
  have split : String.utf8EncodeChar longer = String.utf8EncodeChar char ++ (more ++ tail) := by
    rw [whole', ← whole, List.append_assoc]
  have read := decode_encodeChar_append longer []
  rw [List.append_nil, split, decode_encodeChar_append] at read
  have same := congrArg List.length split
  rw [(List.cons.inj read).1, List.length_append, List.length_append] at same
  omega

/-- No character begins with the bytes and one more that does not continue them. -/
theorem not_begins (begun : Begun stretch inside)
    (outside : ¬ (inside.least ≤ byte ∧ byte ≤ inside.greatest)) :
    ¬ Begins (stretch ++ [byte]) := by
  rintro ⟨char, tail, whole⟩
  have read := decodeStrictFrom_encodeChar char []
  rw [List.append_nil, ← whole, List.append_assoc, begun.strict] at read
  simp only [List.singleton_append, decodeStrictFrom, if_neg outside] at read
  cases read

end Begun

/-- No character begins with a stray byte. -/
theorem not_begins_of_stray {byte : UInt8} (lead : Lead.ofByte byte = .stray) :
    ¬ Begins [byte] := by
  rintro ⟨char, tail, whole⟩
  have read := decodeStrictFrom_encodeChar char []
  rw [List.append_nil, ← whole] at read
  simp only [List.singleton_append, decodeStrictFrom, lead] at read
  cases read

/-! ## What loose decoding gives -/

/-- Where no character stands, this stretch is passed over: the longest with which some character
begins, or a single byte. -/
structure Malformed (stretch rest : List UInt8) : Prop where
  /-- No character stands here. -/
  unread (char : Char) : ¬ String.utf8EncodeChar char <+: stretch ++ rest
  filled : 0 < stretch.length
  begins : Begins stretch ∨ stretch.length = 1
  longest (longer : List UInt8) (there : longer <+: stretch ++ rest) (begins : Begins longer) :
    longer.length ≤ stretch.length

/-- Bytes are read as these characters, one replacement character for each stretch that is no
text. -/
inductive ReadAs : List UInt8 → List Char → Prop where
  | nothing : ReadAs [] []
  | char (char : Char) {rest : List UInt8} {chars : List Char} (further : ReadAs rest chars) :
      ReadAs (String.utf8EncodeChar char ++ rest) (char :: chars)
  | malformed {stretch rest : List UInt8} {chars : List Char} (malformed : Malformed stretch rest)
      (further : ReadAs rest chars) : ReadAs (stretch ++ rest) (replacement :: chars)

/-- A stretch that no further byte continues is passed over if no character stands in it. -/
theorem Malformed.of_stuck {stretch rest : List UInt8} (filled : 0 < stretch.length)
    (begins : Begins stretch ∨ stretch.length = 1)
    (incomplete : ∀ char, ¬ String.utf8EncodeChar char <+: stretch)
    (stuck : ∀ byte ∈ rest.head?, ¬ Begins (stretch ++ [byte])) : Malformed stretch rest := by
  have longest (longer : List UInt8) (there : longer <+: stretch ++ rest)
      (begins : Begins longer) : longer.length ≤ stretch.length := by
    rw [← Nat.not_lt]
    intro more
    cases rest with
    | nil =>
        have few := there.length_le
        rw [List.append_nil] at few
        exact Nat.not_lt_of_le few more
    | cons byte rest =>
        have start : stretch ++ [byte] <+: longer := by
          refine List.prefix_of_prefix_length_le ⟨rest, by simp⟩ there ?_
          rw [List.length_append]
          exact more
        rcases begins with ⟨char, whole⟩
        exact stuck byte rfl ⟨char, start.trans whole⟩
  refine ⟨fun char there => ?_, filled, begins, longest⟩
  have few := longest _ there ⟨char, List.prefix_rfl⟩
  exact incomplete char (List.prefix_of_prefix_length_le there (List.prefix_append _ _) few)

/-- A byte with which no character begins is passed over by itself. -/
theorem Malformed.of_not_begins {byte : UInt8} {rest : List UInt8} (stray : ¬ Begins [byte]) :
    Malformed [byte] rest := by
  refine .of_stuck Nat.one_pos (.inr rfl) ?_ ?_
  · intro char there
    exact stray ⟨char, (there.eq_of_length_le (length_encodeChar_pos char)).symm ▸ List.prefix_rfl⟩
  · rintro next - ⟨char, whole⟩
    exact stray ⟨char, (List.prefix_append _ _).trans whole⟩

/-- Loose decoding reads by the rule, between characters and inside of one. -/
theorem readAs_decodeFrom (bytes : List UInt8) :
    ReadAs bytes (decode bytes) ∧ ∀ stretch inside, Begun stretch inside →
      ReadAs (stretch ++ bytes) (decodeFrom (some inside) bytes) := by
  induction bytes with
  | nil =>
      refine ⟨.nothing, fun stretch inside begun => ?_⟩
      exact .malformed (.of_stuck begun.filled (.inl begun.begins) begun.incomplete (by simp))
        .nothing
  | cons byte rest ih =>
      have between : ReadAs (byte :: rest) (decode (byte :: rest)) := by
        cases lead : Lead.ofByte byte with
        | single char =>
            have read := ReadAs.char char ih.1
            rw [encodeChar_single lead] at read
            rw [decode, decodeFrom_cons, step, start, lead]
            exact read
        | opens inside =>
            have read := ih.2 [byte] inside (.start lead)
            rw [decode, decodeFrom_cons, step, start, lead]
            exact read
        | stray =>
            have malformed : Malformed [byte] rest := .of_not_begins (not_begins_of_stray lead)
            rw [decode, decodeFrom_cons, step, start, lead]
            exact .malformed malformed ih.1
      refine ⟨between, fun stretch inside begun => ?_⟩
      rw [decodeFrom_cons]
      by_cases within : inside.least ≤ byte ∧ byte ≤ inside.greatest
      · rcases inside with ⟨bits, after, least, greatest⟩
        cases after with
        | zero =>
            rw [step_last within]
            have read := ReadAs.char (Char.ofNat (bits * 64 + (byte.toNat - 0x80))) ih.1
            rw [begun.encodeChar_last within, List.append_assoc] at read
            exact read
        | succ after =>
            rw [step_middle within]
            have read := ih.2 _ _ (begun.further within)
            rw [List.append_assoc] at read
            exact read
      · have malformed : Malformed stretch (byte :: rest) := by
          refine .of_stuck begun.filled (.inl begun.begins) begun.incomplete ?_
          rintro _ ⟨⟩
          exact begun.not_begins within
        rw [step_outside within]
        exact .malformed malformed between

/-- Where a character stands, it is read. -/
theorem ReadAs.exists_of_char {char : Char} {rest : List UInt8} {chars : List Char}
    (read : ReadAs (String.utf8EncodeChar char ++ rest) chars) :
    ∃ later, chars = char :: later ∧ ReadAs rest later := by
  generalize there : String.utf8EncodeChar char ++ rest = bytes at read
  cases read with
  | nothing =>
      have none := congrArg List.length (List.append_eq_nil_iff.mp there).1
      exact absurd none (Nat.ne_of_gt (length_encodeChar_pos char))
  | @char other rest' later further =>
      have same := decode_encodeChar_append char rest
      rw [there, decode_encodeChar_append] at same
      obtain rfl := (List.cons.inj same).1
      obtain rfl := List.append_cancel_left there
      exact ⟨later, rfl, further⟩
  | malformed malformed _ => exact absurd ⟨rest, there⟩ (malformed.unread char)

theorem Malformed.length_le {stretch rest stretch' rest' : List UInt8}
    (malformed : Malformed stretch rest) (malformed' : Malformed stretch' rest')
    (same : stretch ++ rest = stretch' ++ rest') : stretch.length ≤ stretch'.length := by
  rcases malformed.begins with begins | one
  · exact malformed'.longest stretch ⟨rest, same⟩ begins
  · exact one ▸ malformed'.filled

/-- Where no character stands, the stretch that is passed over has one end. -/
theorem ReadAs.exists_of_malformed {stretch rest : List UInt8} {chars : List Char}
    (malformed : Malformed stretch rest) (read : ReadAs (stretch ++ rest) chars) :
    ∃ later, chars = replacement :: later ∧ ReadAs rest later := by
  generalize there : stretch ++ rest = bytes at read
  cases read with
  | nothing =>
      have none := congrArg List.length (List.append_eq_nil_iff.mp there).1
      exact absurd none (Nat.ne_of_gt malformed.filled)
  | @char other rest' later _ => exact absurd ⟨rest', there.symm⟩ (malformed.unread other)
  | @malformed stretch' rest' later malformed' further =>
      have length := Nat.le_antisymm (malformed.length_le malformed' there)
        (malformed'.length_le malformed there.symm)
      obtain ⟨rfl, rfl⟩ := List.append_inj there length
      exact ⟨later, rfl, further⟩

/-- Nothing is read from no bytes alone. -/
theorem ReadAs.eq_nil_iff {bytes : List UInt8} {chars : List Char} (read : ReadAs bytes chars) :
    chars = [] ↔ bytes = [] := by
  cases read with
  | nothing => exact iff_of_true rfl rfl
  | char char _ =>
      have some := List.ne_nil_of_length_pos (length_encodeChar_pos char)
      exact iff_of_false (List.cons_ne_nil _ _) (List.append_ne_nil_of_left_ne_nil some _)
  | malformed malformed _ =>
      have some := List.ne_nil_of_length_pos malformed.filled
      exact iff_of_false (List.cons_ne_nil _ _) (List.append_ne_nil_of_left_ne_nil some _)

/-- There is one way to read some bytes. -/
theorem ReadAs.unique {bytes : List UInt8} {left right : List Char} (first : ReadAs bytes left)
    (second : ReadAs bytes right) : left = right := by
  induction first generalizing right with
  | nothing => exact (second.eq_nil_iff.mpr rfl).symm
  | char char _ ih =>
      rcases second.exists_of_char with ⟨later, rfl, further⟩
      rw [ih further]
  | malformed malformed _ ih =>
      rcases second.exists_of_malformed malformed with ⟨later, rfl, further⟩
      rw [ih further]

/-- Loose decoding gives what the rule reads, and nothing else is read by it. -/
theorem readAs_iff {bytes : List UInt8} {chars : List Char} :
    ReadAs bytes chars ↔ chars = decode bytes := by
  constructor
  · exact fun read => read.unique (readAs_decodeFrom bytes).1
  · rintro rfl
    exact (readAs_decodeFrom bytes).1

theorem readAs_decode (bytes : List UInt8) : ReadAs bytes (decode bytes) :=
  readAs_iff.mpr rfl

theorem decode_eq_nil_iff {bytes : List UInt8} : decode bytes = [] ↔ bytes = [] :=
  (readAs_decode bytes).eq_nil_iff

/-! ## Characters of one byte -/

section Ascii

variable {byte : UInt8}

theorem ofByte_of_ascii (ascii : byte.toNat < 0x80) :
    Lead.ofByte byte = .single (Char.ofNat byte.toNat) := by
  simp only [Lead.ofByte, if_pos ascii]

theorem encodeChar_of_ascii (ascii : byte.toNat < 0x80) :
    String.utf8EncodeChar (Char.ofNat byte.toNat) = [byte] :=
  encodeChar_single (ofByte_of_ascii ascii)

/-- What may come next inside a character is bounded as it should be. -/
def State.Proper (state : State) : Prop :=
  ∀ inside ∈ state, inside.Proper

theorem State.Proper.none : State.Proper none :=
  fun _ there => absurd there (Option.not_mem_none _)

theorem State.Proper.some {inside : Partial} (proper : inside.Proper) :
    State.Proper (some inside) := by
  rintro _ ⟨⟩
  exact proper

theorem State.Proper.step {state : State} (proper : state.Proper) (byte : UInt8) :
    State.Proper (Utf8.step state byte).2 := by
  have fresh : State.Proper (Utf8.start byte).2 := by
    rw [Utf8.start]
    cases lead : Lead.ofByte byte with
    | single char | stray => exact .none
    | opens inside => exact .some (Opening.of_ofByte lead).proper
  cases state with
  | none => exact fresh
  | some inside =>
      by_cases within : inside.least ≤ byte ∧ byte ≤ inside.greatest
      · rcases inside with ⟨bits, after, least, greatest⟩
        cases after with
        | zero =>
            rw [step_last within]
            exact .none
        | succ after =>
            rw [step_middle within]
            exact .some (.further _ _)
      · rw [step_outside within]
        exact fresh

/-- A byte that stands for itself is read as itself, and what is before and behind it is read as if
it stood alone: a character that breaks off before it is replaced as at the end. -/
theorem decodeFrom_append_ascii {state : State} (proper : state.Proper)
    (ascii : byte.toNat < 0x80) (body rest : List UInt8) :
    decodeFrom state (body ++ byte :: rest) =
      decodeFrom state body ++ Char.ofNat byte.toNat :: decode rest := by
  induction body generalizing state with
  | nil =>
      have alone : start byte = ([Char.ofNat byte.toNat], none) := by
        rw [start, ofByte_of_ascii ascii]
      rw [List.nil_append, decodeFrom_cons]
      cases state with
      | none =>
          rw [step, alone]
          rfl
      | some inside =>
          have above := UInt8.le_iff_toNat_le.mp (proper inside rfl).above
          have outside : ¬ (inside.least ≤ byte ∧ byte ≤ inside.greatest) := by
            rintro ⟨least, -⟩
            exact Nat.not_lt_of_le (Nat.le_trans above (UInt8.le_iff_toNat_le.mp least)) ascii
          rw [step_outside outside, alone]
          rfl
  | cons first body ih =>
      rw [List.cons_append, decodeFrom_cons, decodeFrom_cons, ih (proper.step first),
        List.append_assoc]

theorem decode_append_ascii (ascii : byte.toNat < 0x80) (body rest : List UInt8) :
    decode (body ++ byte :: rest) = decode body ++ Char.ofNat byte.toNat :: decode rest :=
  decodeFrom_append_ascii .none ascii body rest

/-- A character of one byte comes of that byte alone. -/
theorem ReadAs.exists_of_ascii (ascii : byte.toNat < 0x80) {bytes : List UInt8}
    {before after : List Char}
    (read : ReadAs bytes (before ++ Char.ofNat byte.toNat :: after)) :
    ∃ body rest, bytes = body ++ byte :: rest ∧ ReadAs rest after := by
  generalize there : before ++ Char.ofNat byte.toNat :: after = chars at read
  induction read generalizing before with
  | nothing => exact absurd there (List.append_ne_nil_of_right_ne_nil _ (List.cons_ne_nil _ _))
  | @char char rest chars further ih =>
      cases before with
      | nil =>
          obtain ⟨rfl, rfl⟩ := List.cons.inj there
          exact ⟨[], rest, by rw [encodeChar_of_ascii ascii]; rfl, further⟩
      | cons first before =>
          rcases ih (List.cons.inj there).2 with ⟨body, later, rfl, read⟩
          exact ⟨_ ++ body, later, (List.append_assoc _ _ _).symm, read⟩
  | @malformed stretch rest chars malformed further ih =>
      cases before with
      | nil =>
          have same : Char.ofNat byte.toNat = replacement := (List.cons.inj there).1
          have one := encodeChar_of_ascii ascii
          rw [same] at one
          cases one
      | cons first before =>
          rcases ih (List.cons.inj there).2 with ⟨body, later, rfl, read⟩
          exact ⟨stretch ++ body, later, (List.append_assoc _ _ _).symm, read⟩

end Ascii

end LineTally.Text.Utf8
