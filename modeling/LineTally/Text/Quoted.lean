import LineTally.Text.CaseTable
import LineTally.Text.Digits
import LineTally.Text.Unprintable

/-!
# Quoted texts in messages

A message shows a text between quotes, with quotes, backslashes and everything that cannot be
printed written as escapes.
-/

namespace LineTally.Text

/-- A character as it stands between quotes. -/
def quotedChar (char : Char) : String :=
  if char = '\t' then "\\t"
  else if char = '\r' then "\\r"
  else if char = '\n' then "\\n"
  else if char = '\x00' then "\\0"
  else if char = '"' then "\\\""
  else if char = '\\' then "\\\\"
  else if inRanges unprintableRanges char.toNat then
    "\\u\x7b" ++ hexDigits char.toNat ++ "\x7d"
  else char.toString

/-- A text between quotes. -/
def quoted (text : String) : String :=
  "\"" ++ String.join (text.toList.map quotedChar) ++ "\""

end LineTally.Text
