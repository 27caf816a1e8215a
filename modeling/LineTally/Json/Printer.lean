import LineTally.Json.Basic
import LineTally.Text.Digits

/-!
# Writing JSON

Values are written with two spaces of indentation for each level, one item or member to a line, and
empty lists and objects on one line.  In strings, quotes, backslashes and control characters are
escaped, and nothing else.
-/

namespace LineTally.Json

/-- A character as it is written in a string. -/
def escapeChar (char : Char) : List Char :=
  if char = '"' then ['\\', '"']
  else if char = '\\' then ['\\', '\\']
  else if char = '\x08' then ['\\', 'b']
  else if char = '\t' then ['\\', 't']
  else if char = '\n' then ['\\', 'n']
  else if char = '\x0c' then ['\\', 'f']
  else if char = '\r' then ['\\', 'r']
  else if char.toNat < 0x20 then
    ['\\', 'u', '0', '0', Text.hexDigit (char.toNat / 16), Text.hexDigit (char.toNat % 16)]
  else [char]

/-- A string as it is written. -/
def escape (text : String) : List Char :=
  '"' :: text.toList.flatMap escapeChar ++ ['"']

/-- A line break, and the indentation of the line that it starts. -/
def newline (level : Nat) : List Char :=
  '\n' :: List.replicate (2 * level) ' '

/-- A number as it is written. -/
def Number.print : Number → List Char
  | .whole value => (toString value).toList
  | .real value => (realStyle.render value).toList

mutual

/-- A value as it is written at a level of indentation. -/
def print (level : Nat) : Json → List Char
  | .null => "null".toList
  | .bool true => "true".toList
  | .bool false => "false".toList
  | .number value => value.print
  | .string value => escape value
  | .array [] => ['[', ']']
  | .array (item :: items) =>
    '[' :: newline (level + 1) ++ print (level + 1) item ++ printItems (level + 1) items
      ++ newline level ++ [']']
  | .object [] => ['\x7b', '\x7d']
  | .object (member :: members) =>
    '\x7b' :: newline (level + 1) ++ printMember (level + 1) member
      ++ printMembers (level + 1) members ++ newline level ++ ['\x7d']

/-- Further items, each behind a comma and on its own line. -/
def printItems (level : Nat) : List Json → List Char
  | [] => []
  | item :: items => ',' :: newline level ++ print level item ++ printItems level items

/-- A member of an object. -/
def printMember (level : Nat) : String × Json → List Char
  | (key, value) => escape key ++ [':', ' '] ++ print level value

/-- Further members, each behind a comma and on its own line. -/
def printMembers (level : Nat) : List (String × Json) → List Char
  | [] => []
  | member :: members =>
    ',' :: newline level ++ printMember level member ++ printMembers level members

end

/-- A value as it is written. -/
def pretty (value : Json) : String :=
  String.ofList (print 0 value)

end LineTally.Json
