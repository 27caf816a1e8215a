import LineTally.Json.Basic
import LineTally.Mismatch

/-!
# Reading JSON values as something else

Each decoder turns a JSON value into a value of the wanted form, or says what is wrong with it.  A
structure may be an object, whose members are taken in the order of their keys, or an array of all
its parts.
-/

namespace LineTally.Json

/-- What a JSON value is. -/
def shape : Json → Shape
  | .null => .null
  | .bool value => .boolean value
  | .number (.whole value) => .integer value
  | .number (.real value) => .real (realStyle.render value)
  | .string value => .string value
  | .array _ => .sequence
  | .object _ => .map

/-- Reads a count. -/
def decodeCount (wanted : String) (value : Json) : Except Mismatch Count :=
  value.shape.toCount wanted

/-- Reads a boolean. -/
def decodeBool (value : Json) : Except Mismatch Bool :=
  value.shape.toBool

/-- Reads a string. -/
def decodeString (value : Json) : Except Mismatch String :=
  value.shape.toText

/-- Reads a value that may be absent. -/
def decodeOption {α : Type} (decode : Json → Except Mismatch α) : Json → Except Mismatch (Option α)
  | .null => .ok none
  | value => some <$> decode value

/-- Reads the items of an array. -/
def decodeList {α : Type} (decode : Json → Except Mismatch α) : Json → Except Mismatch (List α)
  | .array items => items.mapM decode
  | value => .error (.kind value.shape "a sequence")

/-- How a structure is read: into a draft, part by part. -/
structure Record (δ α : Type) where
  /-- The name of the structure. -/
  name : String
  /-- The names of its parts, in order. -/
  parts : List String
  /-- The draft before any part is known. -/
  blank : δ
  /-- Reads one part into the draft; unknown parts are passed over. -/
  set : δ → String → Json → Except Mismatch δ
  /-- Makes the structure, or names the first part that is missing. -/
  finish : δ → Except Mismatch α

/-- Reads a structure. -/
def Record.decode {δ α : Type} (record : Record δ α) (value : Json) : Except Mismatch α :=
  match value with
  | .object members => do
    let draft ← (sortMembers members).foldlM
      (fun draft member => record.set draft member.1 member.2) record.blank
    record.finish draft
  | .array items => do
    let draft ← (record.parts.zip items).foldlM
      (fun draft part => record.set draft part.1 part.2) record.blank
    if items.length < record.parts.length then
      throw (.tooShort items.length
        s!"struct {record.name} with {record.parts.length} elements")
    if record.parts.length < items.length then throw (.tooLong items.length)
    record.finish draft
  | _ => .error (.kind value.shape s!"struct {record.name}")

/-- A part that must be there. -/
def require {α : Type} (name : String) : Option α → Except Mismatch α
  | some value => .ok value
  | none => .error (.missing name)

end LineTally.Json
