import LineTally.Text.CaseTable

/-!
# Lower case

A text is put into lower case character by character.  A character may become several, and the
form of a capital sigma depends on its neighbours: at the end of a word it is the final sigma.
-/

namespace LineTally.Text

/-- Whether a character has case, as far as the form of a sigma next to it is concerned. -/
def isCased (char : Char) : Bool :=
  inRanges casedRanges char.toNat

/-- Whether a character is passed over when the neighbour of a sigma is looked for. -/
def isCaseIgnorable (char : Char) : Bool :=
  inRanges ignorableRanges char.toNat

/-- Whether the first character that is not passed over has case. -/
def meetsCased (chars : List Char) : Bool :=
  match chars.dropWhile isCaseIgnorable with
  | [] => false
  | char :: _ => isCased char

/-- The lower-case form of an ASCII character. -/
def lowerAscii (char : Char) : Char :=
  if 'A' ≤ char ∧ char ≤ 'Z' then Char.ofNat (char.toNat + 32) else char

/-- The lower-case form of a character away from any context. -/
def lowerChar (char : Char) : List Char :=
  if char.toNat < 0x80 then [lowerAscii char]
  else if char = 'İ' then ['i', '\u0307']
  else
    match lowerRuns.findSome? (·.lower? char.toNat) with
    | some lower => [Char.ofNat lower]
    | none => [char]

/-- The lower-case form of a character between the characters before it, nearest first, and those
after it. -/
def lowerIn (before : List Char) (char : Char) (after : List Char) : List Char :=
  if char = 'Σ' then
    if meetsCased before && !meetsCased after then ['ς'] else ['σ']
  else lowerChar char

/-- Lower-cases characters that stand behind others, which come nearest first. -/
def lowercaseFrom (before : List Char) : List Char → List Char
  | [] => []
  | char :: after => lowerIn before char after ++ lowercaseFrom (char :: before) after

/-- The characters of a text in lower case. -/
def lowercase (text : List Char) : List Char :=
  lowercaseFrom [] text

@[simp] theorem lowercase_nil : lowercase [] = [] := rfl

@[simp] theorem lowercaseFrom_cons (before : List Char) (char : Char) (after : List Char) :
    lowercaseFrom before (char :: after) =
      lowerIn before char after ++ lowercaseFrom (char :: before) after :=
  rfl

/-- An ASCII character has one lower-case form, whatever stands around it. -/
theorem lowerIn_of_ascii {char : Char} (ascii : char.toNat < 0x80) (before after : List Char) :
    lowerIn before char after = [lowerAscii char] := by
  have plain : char ≠ 'Σ' := by
    rintro rfl
    exact absurd ascii (by decide)
  simp [lowerIn, plain, lowerChar, ascii]

end LineTally.Text
