/-!
# Shared flags

A flag starts cleared, can be set once, and is never cleared again.  Several handles may share one
flag: what is done through one of them is seen through all.
-/

namespace LineTally

/-- Flags, and the handles through which they are reached. -/
structure Flags where
  /-- The flags; a set flag is `true`. -/
  cells : List Bool := []
  /-- The number of the flag behind each handle. -/
  handles : List Nat := []
  deriving DecidableEq, Repr

namespace Flags

/-- A new flag, reached by a new handle. -/
def fresh (flags : Flags) : Flags :=
  { cells := flags.cells ++ [false], handles := flags.handles ++ [flags.cells.length] }

/-- A new handle for the flag behind another handle. -/
def share (flags : Flags) (handle : Nat) : Flags :=
  { flags with handles := flags.handles ++ (flags.handles[handle]?).toList }

/-- Whether the flag behind a handle is set. -/
def isSet (flags : Flags) (handle : Nat) : Bool :=
  ((flags.handles[handle]?).bind (flags.cells[·]?)).getD false

/-- Sets the flag behind a handle, and answers whether it was cleared before. -/
def set (flags : Flags) (handle : Nat) : Flags × Bool :=
  match flags.handles[handle]? with
  | some cell => ({ flags with cells := flags.cells.set cell true }, !flags.isSet handle)
  | none => (flags, false)

/-- Whether the flag behind each handle is set. -/
def all (flags : Flags) : List Bool :=
  (List.range flags.handles.length).map flags.isSet

end Flags

end LineTally
