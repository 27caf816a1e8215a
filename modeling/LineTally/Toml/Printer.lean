import LineTally.Toml.Text

/-!
# Writing TOML

A string is written in the form that needs the fewest escapes: between double quotes, between single
quotes, or between three of either, in this order, and with escapes only if none of these will do.
Between three quotes, a string that holds a line break begins on a line of its own.
-/

namespace LineTally.Toml

/-- Whether a character can only be written as an escape. -/
def needsEscape (char : Char) : Bool :=
  !isPlain char && char ≠ '\n'

/-- The length of the longest run of a character. -/
def longestRun (quote : Char) (current : Nat) : List Char → Nat
  | [] => current
  | char :: rest =>
    if char = quote then longestRun quote (current + 1) rest
    else max current (longestRun quote 0 rest)

/-- The form of a string. -/
structure Form where
  /-- The quote around it. -/
  quote : Char
  /-- There are three of them at each end. -/
  long : Bool
  deriving DecidableEq, Repr

/-- The form in which a string is written. -/
def Form.choose (text : List Char) : Form :=
  let doubles := longestRun '"' 0 text
  let singles := longestRun '\'' 0 text
  let controls := text.any needsEscape
  let backslash := text.contains '\\'
  let newline := text.contains '\n'
  if !controls && !backslash && !newline && doubles = 0 then ⟨'"', false⟩
  else if !controls && !newline && singles = 0 then ⟨'\'', false⟩
  else if !controls && !backslash && doubles ≤ 2 then ⟨'"', true⟩
  else if !controls && singles ≤ 2 then ⟨'\'', true⟩
  else ⟨'"', newline⟩

/-- A character between double quotes, unless it is a quote. -/
def writeChar (long : Bool) (char : Char) : List Char :=
  if char = '\x08' then ['\\', 'b']
  else if char = '\t' then ['\\', 't']
  else if char = '\n' then if long then ['\n'] else ['\\', 'n']
  else if char = '\x0c' then ['\\', 'f']
  else if char = '\r' then ['\\', 'r']
  else if char = '\\' then ['\\', '\\']
  else if needsEscape char then
    ['\\', 'u', '0', '0', (Text.hexDigit (char.toNat / 16)).toUpper,
      (Text.hexDigit (char.toNat % 16)).toUpper]
  else [char]

/-- Characters between double quotes, behind a number of quotes in a row. -/
def writeChars (long : Bool) (quotes : Nat) : List Char → List Char
  | [] => []
  | char :: rest =>
    if char = '"' then
      if long && quotes < 2 then '"' :: writeChars long (quotes + 1) rest
      else '\\' :: '"' :: writeChars long 0 rest
    else writeChar long char ++ writeChars long 0 rest

/-- What stands between the quotes. -/
def Form.body (form : Form) (text : List Char) : List Char :=
  if form.quote = '"' then writeChars form.long 0 text else text

/-- A string in a form. -/
def Form.write (form : Form) (text : List Char) : List Char :=
  if form.long then
    let quotes := List.replicate 3 form.quote
    let start := if text.contains '\n' then ['\n'] else []
    quotes ++ start ++ form.body text ++ quotes
  else form.quote :: form.body text ++ [form.quote]

/-- A string as it is written. -/
def writeString (text : String) : String :=
  String.ofList ((Form.choose text.toList).write text.toList)

/-- A boolean as it is written. -/
def writeBool (value : Bool) : String :=
  if value then "true" else "false"

/-- A table with its header, whose values are already written. -/
def writeTable (name : String) (entries : List (String × String)) : String :=
  s!"[{name}]\n" ++ String.join (entries.map fun entry => s!"{entry.1} = {entry.2}\n")

end LineTally.Toml
