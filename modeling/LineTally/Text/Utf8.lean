/-!
# Loose decoding of UTF-8

Bytes become characters.  A stretch of bytes that cannot be the start of a character, or that
breaks off inside one, becomes one replacement character: the decoder gives up on a character at
the first byte that does not continue it, and looks at that byte again as the start of the next.

The decoder is an automaton over single bytes.  Its state is empty between characters, and inside
a character it holds the bits so far and the bytes that may come next.
-/

namespace LineTally.Text.Utf8

/-- The inside of a character of several bytes. -/
structure Partial where
  /-- The bits read so far. -/
  bits : Nat
  /-- The number of bytes still to come after the next one. -/
  after : Nat
  /-- The least byte that continues the character. -/
  least : UInt8
  /-- The greatest byte that continues the character. -/
  greatest : UInt8
  deriving DecidableEq, Repr

/-- The character that stands for bytes which are no text. -/
def replacement : Char := '\uFFFD'

/-- What a byte is at the start of a character. -/
inductive Lead where
  /-- A whole character. -/
  | single (char : Char)
  /-- The first byte of a longer character. -/
  | opens (inside : Partial)
  /-- Not the start of any character. -/
  | stray
  deriving DecidableEq, Repr

/-- Classifies a byte at the start of a character.  The bounds on the second byte rule out overlong
forms, surrogates and numbers above the last character. -/
def Lead.ofByte (byte : UInt8) : Lead :=
  let bits := byte.toNat
  if bits < 0x80 then .single (Char.ofNat bits)
  else if bits < 0xC2 then .stray
  else if bits < 0xE0 then .opens ⟨bits - 0xC0, 0, 0x80, 0xBF⟩
  else if bits = 0xE0 then .opens ⟨0, 1, 0xA0, 0xBF⟩
  else if bits = 0xED then .opens ⟨0xD, 1, 0x80, 0x9F⟩
  else if bits < 0xF0 then .opens ⟨bits - 0xE0, 1, 0x80, 0xBF⟩
  else if bits = 0xF0 then .opens ⟨0, 2, 0x90, 0xBF⟩
  else if bits < 0xF4 then .opens ⟨bits - 0xF0, 2, 0x80, 0xBF⟩
  else if bits = 0xF4 then .opens ⟨4, 2, 0x80, 0x8F⟩
  else .stray

/-- The state between bytes: inside a character, or not. -/
abbrev State := Option Partial

/-- Reads a byte at the start of a character. -/
def start (byte : UInt8) : List Char × State :=
  match Lead.ofByte byte with
  | .single char => ([char], none)
  | .opens inside => ([], some inside)
  | .stray => ([replacement], none)

/-- Reads one byte: the characters that it completes, and the state after it. -/
def step : State → UInt8 → List Char × State
  | none, byte => start byte
  | some inside, byte =>
    if inside.least ≤ byte ∧ byte ≤ inside.greatest then
      let bits := inside.bits * 64 + (byte.toNat - 0x80)
      match inside.after with
      | 0 => ([Char.ofNat bits], none)
      | after + 1 => ([], some ⟨bits, after, 0x80, 0xBF⟩)
    else
      let (chars, state) := start byte
      (replacement :: chars, state)

/-- What the end of the bytes completes: a character that breaks off is replaced. -/
def finish : State → List Char
  | none => []
  | some _ => [replacement]

/-- Decodes bytes from a state on. -/
def decodeFrom (state : State) : List UInt8 → List Char
  | [] => finish state
  | byte :: rest => (step state byte).1 ++ decodeFrom (step state byte).2 rest

/-- Decodes bytes, each maximal stretch that is no text becoming one replacement character. -/
def decode (bytes : List UInt8) : List Char :=
  decodeFrom none bytes

/-- Decodes bytes from a state on, refusing any that are no text. -/
def decodeStrictFrom : State → List UInt8 → Option (List Char)
  | none, [] => some []
  | some _, [] => none
  | none, byte :: rest =>
    match Lead.ofByte byte with
    | .single char => (decodeStrictFrom none rest).map (char :: ·)
    | .opens inside => decodeStrictFrom (some inside) rest
    | .stray => none
  | some inside, byte :: rest =>
    if inside.least ≤ byte ∧ byte ≤ inside.greatest then
      let bits := inside.bits * 64 + (byte.toNat - 0x80)
      match inside.after with
      | 0 => (decodeStrictFrom none rest).map (Char.ofNat bits :: ·)
      | after + 1 => decodeStrictFrom (some ⟨bits, after, 0x80, 0xBF⟩) rest
    else none

/-- Decodes bytes that are text throughout, and refuses all others. -/
def decodeStrict (bytes : List UInt8) : Option (List Char) :=
  decodeStrictFrom none bytes

/-- The bytes of a text. -/
def encode (text : String) : List UInt8 :=
  text.toUTF8.data.toList

@[simp] theorem decode_nil : decode [] = [] := rfl

@[simp] theorem decodeFrom_cons (state : State) (byte : UInt8) (rest : List UInt8) :
    decodeFrom state (byte :: rest) = (step state byte).1 ++ decodeFrom (step state byte).2 rest :=
  rfl

end LineTally.Text.Utf8
