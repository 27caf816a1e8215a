import LineTally.Json.Number

/-!
# Reading JSON

A text is read from left to right; every reader splits what it reads off the front and leaves the
rest.  Readers of values call one another, and are limited by a depth that no text can exceed that
is shorter.
-/

namespace LineTally.Json

/-- Whether a character may stand between the parts of a JSON text. -/
def isBlank (char : Char) : Bool :=
  char = ' ' || char = '\t' || char = '\n' || char = '\r'

/-- Leaves out blanks. -/
def skipBlanks (text : List Char) : List Char :=
  text.dropWhile isBlank

/-- The number that four hexadecimal digits stand for. -/
def hexUnit? (a b c d : Char) : Option Nat := do
  let high := (← Text.hexValue? a) * 16 + (← Text.hexValue? b)
  return (high * 16 + (← Text.hexValue? c)) * 16 + (← Text.hexValue? d)

/-- The character that an escape of one letter stands for. -/
def escaped? : Char → Option Char
  | '"' => some '"'
  | '\\' => some '\\'
  | '/' => some '/'
  | 'b' => some '\x08'
  | 'f' => some '\x0c'
  | 'n' => some '\n'
  | 'r' => some '\r'
  | 't' => some '\t'
  | _ => none

/-- The character of one or two UTF-16 units, if they are whole. -/
def pairValue? (high low : Nat) : Option Char :=
  if 0xD800 ≤ high ∧ high < 0xDC00 ∧ 0xDC00 ≤ low ∧ low < 0xE000 then
    some (Char.ofNat (0x10000 + (high - 0xD800) * 0x400 + (low - 0xDC00)))
  else none

/-- The rest of a string, up to its closing quote. -/
def readString : List Char → Option (List Char × List Char)
  | [] => none
  | '"' :: rest => some ([], rest)
  | '\\' :: 'u' :: a :: b :: c :: d :: '\\' :: 'u' :: e :: f :: g :: h :: rest => do
    let unit ← hexUnit? a b c d
    if 0xD800 ≤ unit ∧ unit < 0xE000 then
      let char ← pairValue? unit (← hexUnit? e f g h)
      let (chars, rest) ← readString rest
      return (char :: chars, rest)
    else
      let (chars, rest) ← readString ('\\' :: 'u' :: e :: f :: g :: h :: rest)
      return (Char.ofNat unit :: chars, rest)
  | '\\' :: 'u' :: a :: b :: c :: d :: rest => do
    let unit ← hexUnit? a b c d
    if 0xD800 ≤ unit ∧ unit < 0xE000 then none
    else
      let (chars, rest) ← readString rest
      return (Char.ofNat unit :: chars, rest)
  | '\\' :: letter :: rest => do
    let char ← escaped? letter
    let (chars, rest) ← readString rest
    return (char :: chars, rest)
  | char :: rest =>
    if char = '\\' ∨ char.toNat < 0x20 then none
    else do
      let (chars, rest) ← readString rest
      return (char :: chars, rest)

/-- The rest of a text behind the characters that must come first. -/
def expect (word : List Char) (text : List Char) : Option (List Char) :=
  if word.isPrefixOf text then some (text.drop word.length) else none

mutual

/-- Splits a value off, behind blanks. -/
def readValue : Nat → List Char → Option (Json × List Char)
  | 0, _ => none
  | depth + 1, text =>
    match skipBlanks text with
    | '"' :: rest => do
      let (chars, rest) ← readString rest
      return (.string (String.ofList chars), rest)
    | '[' :: rest =>
      match skipBlanks rest with
      | ']' :: rest => some (.array [], rest)
      | rest => do
        let (items, rest) ← readItems depth rest
        return (.array items, rest)
    | '\x7b' :: rest =>
      match skipBlanks rest with
      | '\x7d' :: rest => some (.object [], rest)
      | rest => do
        let (members, rest) ← readMembers depth rest
        return (.object members, rest)
    | 'n' :: rest => (expect ['u', 'l', 'l'] rest).map (.null, ·)
    | 't' :: rest => (expect ['r', 'u', 'e'] rest).map (.bool true, ·)
    | 'f' :: rest => (expect ['a', 'l', 's', 'e'] rest).map (.bool false, ·)
    | rest => (Number.read rest).map fun (value, rest) => (.number value, rest)

/-- Splits the items of an array off, with the bracket that closes it. -/
def readItems : Nat → List Char → Option (List Json × List Char)
  | 0, _ => none
  | depth + 1, text => do
    let (item, rest) ← readValue depth text
    match skipBlanks rest with
    | ',' :: rest =>
      let (items, rest) ← readItems depth rest
      return (item :: items, rest)
    | ']' :: rest => return ([item], rest)
    | _ => none

/-- Splits the members of an object off, with the brace that closes it. -/
def readMembers : Nat → List Char → Option (List (String × Json) × List Char)
  | 0, _ => none
  | depth + 1, text =>
    match skipBlanks text with
    | '"' :: rest => do
      let (key, rest) ← readString rest
      match skipBlanks rest with
      | ':' :: rest =>
        let (value, rest) ← readValue depth rest
        match skipBlanks rest with
        | ',' :: rest =>
          let (members, rest) ← readMembers depth rest
          return ((String.ofList key, value) :: members, rest)
        | '\x7d' :: rest => return ([(String.ofList key, value)], rest)
        | _ => none
      | _ => none
    | _ => none

end

/-- The value that a whole text stands for. -/
def parse (text : String) : Option Json := do
  let chars := text.toList
  let (value, rest) ← readValue (chars.length + 1) chars
  if (skipBlanks rest).isEmpty then some value else none

end LineTally.Json
