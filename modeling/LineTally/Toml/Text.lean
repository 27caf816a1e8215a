import LineTally.Text.Digits

/-!
# Strings in TOML

A string stands between single or double quotes, one at each end or, if it may hold line breaks,
three.  A string is read in two steps: the body is split off up to the closing quotes, and then
decoded.  Between single quotes every character stands for itself; between double quotes a backslash
starts an escape.

In all of TOML a line break is a line feed; a carriage return before it has been dropped, and no
other is allowed.
-/

namespace LineTally.Toml

/-- Whether a character is a blank within a line. -/
def isBlank (char : Char) : Bool :=
  char = ' ' || char = '\t'

/-- Whether a character may stand for itself: all but control characters, and the tab. -/
def isPlain (char : Char) : Bool :=
  char = '\t' || (' ' ≤ char && char ≠ '\x7f')

/-- Puts characters before what was split off. -/
def push (chars : List Char) (split : Option (List Char × List Char)) :
    Option (List Char × List Char) :=
  split.map fun (body, rest) => (chars ++ body, rest)

/-- Whether a character starts an escape: a backslash does, between double quotes. -/
def startsEscape (quote char : Char) : Bool :=
  quote = '"' && char = '\\'

/-- Splits the body of a string off that is closed by one quote.  Between double quotes, a character
behind a backslash closes nothing. -/
def spanShort (quote : Char) : List Char → Option (List Char × List Char)
  | [] => none
  | char :: rest =>
    if char = quote then some ([], rest)
    else if startsEscape quote char then
      match rest with
      | [] => none
      | next :: rest => push [char, next] (spanShort quote rest)
    else push [char] (spanShort quote rest)

/-- The closing of a string by three quotes: up to two more quotes before them are part of the
string. -/
def closing? (quote : Char) (text : List Char) : Option (List Char × List Char) :=
  let run := (text.takeWhile (· = quote)).length
  if run < 3 then none
  else
    let inside := min (run - 3) 2
    some (List.replicate inside quote, text.drop (inside + 3))

/-- Splits the body of a string off that is closed by three quotes. -/
def spanLong (quote : Char) : List Char → Option (List Char × List Char)
  | [] => none
  | char :: rest =>
    match closing? quote (char :: rest) with
    | some closed => some closed
    | none =>
      if startsEscape quote char then
        match rest with
        | [] => none
        | next :: rest => push [char, next] (spanLong quote rest)
      else push [char] (spanLong quote rest)

/-- The character that an escape of one letter stands for. -/
def escaped? : Char → Option Char
  | 'b' => some '\x08'
  | 't' => some '\t'
  | 'n' => some '\n'
  | 'f' => some '\x0c'
  | 'r' => some '\r'
  | '"' => some '"'
  | '\\' => some '\\'
  | _ => none

/-- The character with a number. -/
def character? (number : Nat) : Option Char :=
  if number.isValidChar then some (Char.ofNat number) else none

/-- Where the decoding of a body is. -/
inductive Decoding where
  /-- Among characters that stand for themselves. -/
  | plain
  /-- Behind a backslash. -/
  | escape
  /-- In the number of a character, with so many digits to come behind the next one. -/
  | number (digits value : Nat)
  /-- Behind a backslash and blanks that must be followed by a line break. -/
  | breaking
  /-- Behind a line break that does not count, where blanks and line breaks do not count either. -/
  | joining
  deriving DecidableEq, Repr

namespace Decoding

/-- A character that stands for itself. -/
def stepPlain (long : Bool) (char : Char) : Option (List Char × Decoding) :=
  if char = '\\' then some ([], escape)
  else if isPlain char || long && char = '\n' then some ([char], plain)
  else none

/-- A character behind a backslash. -/
def stepEscape (long : Bool) (char : Char) : Option (List Char × Decoding) :=
  match escaped? char with
  | some meant => some ([meant], plain)
  | none =>
    if char = 'u' then some ([], number 3 0)
    else if char = 'U' then some ([], number 7 0)
    else if long && char = '\n' then some ([], joining)
    else if long && isBlank char then some ([], breaking)
    else none

/-- A digit of the number of a character. -/
def stepNumber (digits value : Nat) (char : Char) : Option (List Char × Decoding) := do
  let value := value * 16 + (← Text.hexValue? char)
  match digits with
  | 0 => return ([← character? value], plain)
  | digits + 1 => return ([], number digits value)

/-- The next character of a body: what it adds to the string, and where the decoding is after it. -/
def step (long : Bool) (char : Char) : Decoding → Option (List Char × Decoding)
  | plain => stepPlain long char
  | escape => stepEscape long char
  | number digits value => stepNumber digits value char
  | breaking =>
    if char = '\n' then some ([], joining)
    else if isBlank char then some ([], breaking)
    else none
  | joining =>
    if char = '\n' || isBlank char then some ([], joining) else stepPlain long char

/-- Whether a body may end there. -/
def isComplete : Decoding → Bool
  | plain => true
  | joining => true
  | _ => false

end Decoding

/-- Decodes the rest of a body between double quotes. -/
def decodeFrom (long : Bool) : Decoding → List Char → Option (List Char)
  | decoding, [] => if decoding.isComplete then some [] else none
  | decoding, char :: rest => do
    let (chars, decoding) ← decoding.step long char
    return chars ++ (← decodeFrom long decoding rest)

/-- Decodes a body. -/
def decodeBody (quote : Char) (long : Bool) (body : List Char) : Option (List Char) :=
  if quote = '"' then decodeFrom long .plain body
  else if body.all fun char => isPlain char || long && char = '\n' then some body
  else none

/-- A body without a line break at its start. -/
def dropNewline : List Char → List Char
  | '\n' :: rest => rest
  | text => text

/-- Splits a string off that is closed by one quote, behind its opening quote. -/
def readShort (quote : Char) (text : List Char) : Option (String × List Char) := do
  let (body, rest) ← spanShort quote text
  return (String.ofList (← decodeBody quote false body), rest)

/-- Splits a string off that is closed by three quotes, behind its opening quotes. -/
def readLong (quote : Char) (text : List Char) : Option (String × List Char) := do
  let (body, rest) ← spanLong quote (dropNewline text)
  return (String.ofList (← decodeBody quote true body), rest)

/-- Splits a string off, behind its first quote. -/
def readString (quote : Char) (text : List Char) : Option (String × List Char) :=
  match text with
  | second :: third :: rest =>
    if second = quote ∧ third = quote then readLong quote rest else readShort quote text
  | _ => readShort quote text

end LineTally.Toml
