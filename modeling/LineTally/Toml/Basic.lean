import LineTally.Decimal.Style
import LineTally.Mismatch

/-!
# TOML values

A TOML value as far as settings depend on it: the members of a table keep the order in which they
came to be, and of a date or time only its text is kept.
-/

namespace LineTally

/-- A TOML value. -/
inductive Toml where
  | string (value : String)
  | integer (value : Int)
  | real (value : Float)
  | boolean (value : Bool)
  /-- A date, a time of day, or both. -/
  | moment (text : String)
  | array (items : List Toml)
  | table (members : List (String × Toml))
  deriving Repr

namespace Toml

instance : Inhabited Toml := ⟨.table []⟩

/-- Real numbers are always written out; of two equally near numbers the one further from zero is
written. -/
def realStyle : Decimal.Style where
  tie := .away
  writesOut _ := true

/-- What a TOML value is; a date or time counts as a map. -/
def shape : Toml → Shape
  | string value => .string value
  | integer value => .integer value
  | real value => .real (realStyle.render value)
  | boolean value => .boolean value
  | moment _ => .map
  | array _ => .sequence
  | table _ => .map

end Toml

end LineTally
