import LineTally.Toml.Moment
import LineTally.Toml.Number
import LineTally.Toml.Text
import LineTally.Toml.Tree

/-!
# Reading TOML

A document is a list of statements, each on a line of its own, though a value may go on over several
lines.  Every reader splits what it reads off the front of a text and leaves the rest.  Values are
nested, and keys are dotted, less than eighty times.
-/

namespace LineTally.Toml

/-- How often values may be nested, and how many names a key may have. -/
def nestingLimit : Nat := 79

/-- Leaves out blanks. -/
def skipBlanks (text : List Char) : List Char :=
  text.dropWhile isBlank

/-- Leaves out blanks, comments and line breaks.  The flag is set within a comment. -/
def skipLayout (inComment : Bool) : List Char → List Char
  | [] => []
  | char :: rest =>
    if char = '\n' then skipLayout false rest
    else if inComment then if isPlain char then skipLayout true rest else char :: rest
    else if char = '#' then skipLayout true rest
    else if isBlank char then skipLayout false rest
    else char :: rest

/-- Leaves out the end of a line: blanks and a comment may stand there. -/
def readLineEnd (text : List Char) : Option (List Char) :=
  let rest := match skipBlanks text with
    | '#' :: comment => comment.dropWhile isPlain
    | rest => rest
  match rest with
  | [] => some []
  | '\n' :: rest => some rest
  | _ => none

/-- Whether a character may stand in a name without quotes. -/
def isBare (char : Char) : Bool :=
  char.isAlphanum || char = '_' || char = '-'

/-- Splits a name off. -/
def readName : List Char → Option (String × List Char)
  | [] => none
  | char :: rest =>
    if char = '"' || char = '\'' then readShort char rest
    else if isBare char then
      some (String.ofList (char :: rest.takeWhile isBare), rest.dropWhile isBare)
    else none

/-- Splits the names of a key off, separated by dots, with the blanks around them. -/
def readPath : Nat → List Char → Option (Path × List Char)
  | 0, _ => none
  | limit + 1, text => do
    let (name, rest) ← readName (skipBlanks text)
    match skipBlanks rest with
    | '.' :: rest =>
      let (path, rest) ← readPath limit rest
      return ({ path with parents := name :: path.parents }, rest)
    | rest => return ({ parents := [], name }, rest)

/-- Splits a key off, with the blanks around it. -/
def readKey (text : List Char) : Option (Path × List Char) :=
  readPath nestingLimit text

/-- Whether a character may stand in a value without quotes and brackets. -/
def isTokenChar (char : Char) : Bool :=
  isBare char || char = '+' || char = '.' || char = ':'

/-- The value that a token stands for. -/
def scalar? (token : List Char) : Option Toml :=
  if token = ['t', 'r', 'u', 'e'] then some (.boolean true)
  else if token = ['f', 'a', 'l', 's', 'e'] then some (.boolean false)
  else if isMoment token then some (.moment (String.ofList token))
  else match integer? token with
    | some number => some (.integer number)
    | none => .real <$> real? token

/-- Splits a value off that has neither quotes nor brackets.  A blank may stand between a date and a
time. -/
def readScalar (text : List Char) : Option (Toml × List Char) :=
  let token := text.takeWhile isTokenChar
  let rest := text.dropWhile isTokenChar
  let time := (rest.drop 1).takeWhile isTokenChar
  if isDate token && rest.head? = some ' ' && !time.isEmpty then
    if isTimeWithOffset time then
      some (.moment (String.ofList (token ++ ' ' :: time)), (rest.drop 1).dropWhile isTokenChar)
    else none
  else (scalar? token).map (·, rest)

mutual

/-- Splits a value off.  The first number bounds the parts of a value, the second its depth. -/
def readValue : Nat → Nat → List Char → Option (Toml × List Char)
  | 0, _, _ => none
  | parts + 1, depth, text =>
    match text, depth with
    | '"' :: rest, _ => (readString '"' rest).map fun (value, rest) => (.string value, rest)
    | '\'' :: rest, _ => (readString '\'' rest).map fun (value, rest) => (.string value, rest)
    | '[' :: rest, depth + 1 => do
      let (items, rest) ← readItems parts depth rest
      return (.array items, rest)
    | '\x7b' :: rest, depth + 1 => do
      let (entries, rest) ← match skipBlanks rest with
        | '\x7d' :: rest => some ([], rest)
        | rest => readEntries parts depth rest
      return (.table (toTable (← Members.ofEntries? entries)), rest)
    | text, _ => readScalar text

/-- Splits the items of an array off, with the bracket that closes it. -/
def readItems : Nat → Nat → List Char → Option (List Toml × List Char)
  | 0, _, _ => none
  | parts + 1, depth, text =>
    match skipLayout false text with
    | ']' :: rest => some ([], rest)
    | text => do
      let (item, rest) ← readValue parts depth text
      match skipLayout false rest with
      | ',' :: rest =>
        let (items, rest) ← readItems parts depth rest
        return (item :: items, rest)
      | ']' :: rest => return ([item], rest)
      | _ => none

/-- Splits the entries of a table within a line off, with the brace that closes it. -/
def readEntries : Nat → Nat → List Char → Option (List (Path × Toml) × List Char)
  | 0, _, _ => none
  | parts + 1, depth, text => do
    let (path, rest) ← readKey text
    match rest with
    | '=' :: rest =>
      let (value, rest) ← readValue parts depth (skipBlanks rest)
      match skipBlanks rest with
      | ',' :: rest =>
        let (entries, rest) ← readEntries parts depth rest
        return ((path, value) :: entries, rest)
      | '\x7d' :: rest => return ([(path, value)], rest)
      | _ => none
    | _ => none

end

/-- Splits a header off, behind its first bracket. -/
def readHeader : List Char → Option (Statement × List Char)
  | '[' :: text => do
    match ← readKey text with
    | (path, ']' :: ']' :: rest) => return (.item path, rest)
    | _ => none
  | text => do
    match ← readKey text with
    | (path, ']' :: rest) => return (.table path, rest)
    | _ => none

/-- Splits a statement off. -/
def readStatement (text : List Char) : Option (Statement × List Char) :=
  match text with
  | '[' :: rest => readHeader rest
  | text => do
    match ← readKey text with
    | (path, '=' :: rest) =>
      let (value, rest) ← readValue (text.length + 1) nestingLimit (skipBlanks rest)
      return (.entry path value, rest)
    | _ => none

/-- The statements of a text.  The number bounds its lines. -/
def readStatements : Nat → List Char → Option (List Statement)
  | 0, _ => none
  | lines + 1, text =>
    match skipLayout false text with
    | [] => some []
    | text => do
      let (statement, rest) ← readStatement text
      return statement :: (← readStatements lines (← readLineEnd rest))

/-- A text in which line breaks are line feeds: carriage returns before them are dropped. -/
def unifyNewlines : List Char → List Char
  | [] => []
  | '\r' :: '\n' :: rest => '\n' :: unifyNewlines rest
  | char :: rest => char :: unifyNewlines rest

/-- A text without the mark that may stand before it. -/
def dropMark : List Char → List Char
  | '\ufeff' :: rest => rest
  | text => text

/-- The table that a document stands for, if it is one. -/
def parse (text : String) : Option (List (String × Toml)) := do
  let chars := dropMark (unifyNewlines text.toList)
  ofStatements? (← readStatements (chars.length + 1) chars)

end LineTally.Toml
