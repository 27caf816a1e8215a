import LineTally.Decimal.Style

/-!
# JSON values

A JSON value as it is written: the members of an object keep their order, and a number is whole or
real according to how it is written.
-/

namespace LineTally

/-- A JSON number. -/
inductive Json.Number where
  /-- A number without fraction and exponent that fits 64 bits, with or without sign. -/
  | whole (value : Int)
  /-- Any other number. -/
  | real (value : Float)
  deriving Repr

/-- A JSON value. -/
inductive Json where
  | null
  | bool (value : Bool)
  | number (value : Json.Number)
  | string (value : String)
  | array (items : List Json)
  | object (members : List (String × Json))
  deriving Repr

namespace Json

instance : Inhabited Json := ⟨.null⟩

/-- Real numbers are written out with up to sixteen digits before the point or four zeros behind it,
and otherwise with a power of ten; of two equally near numbers the even one is written. -/
def realStyle : Decimal.Style where
  tie := .even
  writesOut point := -5 < point && point ≤ 16

/-- A natural number as a JSON value. -/
def ofNat (number : Nat) : Json := .number (.whole number)

/-- The member of that name that comes last. -/
def find? (members : List (String × Json)) (key : String) : Option Json :=
  members.foldl (fun found member => if member.1 = key then some member.2 else found) none

/-- Puts a member among members in the order of their keys, in place of one with the same key. -/
def insertMember (key : String) (value : Json) : List (String × Json) → List (String × Json)
  | [] => [(key, value)]
  | member :: rest =>
    if key < member.1 then (key, value) :: member :: rest
    else if key = member.1 then (key, value) :: rest
    else member :: insertMember key value rest

/-- The members in the order of their keys; of members with the same key the last counts. -/
def sortMembers (members : List (String × Json)) : List (String × Json) :=
  members.foldl (fun sorted member => insertMember member.1 member.2 sorted) []

end Json

end LineTally
