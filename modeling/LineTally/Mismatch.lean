import LineTally.Count
import LineTally.Text.Quoted

/-!
# Values of the wrong form

A value that was read from a text need not have the form that is asked for.  What is wrong with it
is said in the same words whatever language the text was in.
-/

namespace LineTally

/-- What a value is. -/
inductive Shape where
  | boolean (value : Bool)
  | integer (value : Int)
  /-- A number that is not whole by its form, as its language writes it. -/
  | real (written : String)
  | string (value : String)
  | null
  | sequence
  | map
  deriving Repr

/-- The words for what a value is. -/
def Shape.describe : Shape → String
  | boolean value => s!"boolean `{value}`"
  | integer value => s!"integer `{value}`"
  | real written => s!"floating point `{written}`"
  | string value => "string " ++ Text.quoted value
  | null => "null"
  | sequence => "sequence"
  | map => "map"

/-- What is wrong with a value. -/
inductive Mismatch where
  /-- It is of another kind than what is wanted. -/
  | kind (found : Shape) (wanted : String)
  /-- It is of the right kind, but out of range. -/
  | range (found : Shape) (wanted : String)
  /-- It has too few parts. -/
  | tooShort (length : Nat) (wanted : String)
  /-- It has too many parts. -/
  | tooLong (length : Nat)
  /-- A part of that name is missing. -/
  | missing (field : String)
  /-- Something else. -/
  | other (message : String)
  deriving Repr

/-- The text by which a mismatch is reported. -/
def Mismatch.message : Mismatch → String
  | kind found wanted => s!"invalid type: {found.describe}, expected {wanted}"
  | range found wanted => s!"invalid value: {found.describe}, expected {wanted}"
  | tooShort length wanted => s!"invalid length {length}, expected {wanted}"
  | tooLong length => s!"invalid length {length}, expected fewer elements in array"
  | missing field => s!"missing field `{field}`"
  | other message => message

namespace Shape

/-- The count that a value is. -/
def toCount (wanted : String) : Shape → Except Mismatch Count
  | integer value =>
    match value with
    | .ofNat natural =>
      match Count.ofNat? natural with
      | some count => .ok count
      | none => .error (.range (integer value) wanted)
    | .negSucc _ => .error (.range (integer value) wanted)
  | shape => .error (.kind shape wanted)

@[simp] theorem toCount_ofNat (wanted : String) (count : Count) :
    toCount wanted (.integer (Int.ofNat count.toNat)) = .ok count := by
  simp only [toCount, Count.ofNat?_toNat]

/-- The boolean that a value is. -/
def toBool : Shape → Except Mismatch Bool
  | boolean value => .ok value
  | shape => .error (.kind shape "a boolean")

/-- The string that a value is. -/
def toText : Shape → Except Mismatch String
  | string value => .ok value
  | shape => .error (.kind shape "a string")

end Shape

end LineTally
