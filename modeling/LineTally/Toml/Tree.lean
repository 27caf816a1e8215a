import LineTally.Toml.Basic

/-!
# Trees of tables

A document fills a tree of tables by headers and entries.  How a table came to be decides what may
still be done with it: a header names a table once, though tables on the way to it may have been
named or implied before; a dotted key adds only to tables that came from dotted keys.
-/

namespace LineTally.Toml

/-- The way to a place in a tree: the tables to go through, and a name in the last of them. -/
structure Path where
  parents : List String
  name : String
  deriving DecidableEq, Repr

/-- All names of a path. -/
def Path.names (path : Path) : List String :=
  path.parents ++ [path.name]

/-- How a table came to be. -/
inductive Origin where
  /-- By a header of its own. -/
  | header
  /-- By a header of a table inside it. -/
  | implied
  /-- By a dotted key. -/
  | dotted
  deriving DecidableEq, Repr

/-- What a name stands for while a document is read. -/
inductive Node where
  /-- A value that nothing can be added to. -/
  | value (value : Toml)
  /-- A table. -/
  | table (origin : Origin) (members : List (String × Node))
  /-- A series of tables, each begun by a header; only the last is still open. -/
  | series (earlier : List Toml) (last : List (String × Node))

/-- The members of a table while a document is read. -/
abbrev Members := List (String × Node)

mutual

/-- The value of a node. -/
def Node.toToml : Node → Toml
  | .value value => value
  | .table _ members => .table (toTable members)
  | .series earlier last => .array (earlier ++ [.table (toTable last)])

/-- A member with its value. -/
def toMember : String × Node → String × Toml
  | (name, node) => (name, node.toToml)

/-- The members of a table with their values. -/
def toTable : List (String × Node) → List (String × Toml)
  | [] => []
  | member :: members => toMember member :: toTable members

end

namespace Members

/-- Changes what a name stands for, or lets it stand for something; a new name comes last. -/
def change (name : String) (alter : Option Node → Option Node) : Members → Option Members
  | [] => do return [(name, ← alter none)]
  | member :: members =>
    if member.1 = name then do return (name, ← alter (some member.2)) :: members
    else do return member :: (← change name alter members)

/-- The members without those of a name. -/
def without (name : String) (members : Members) : Members :=
  members.filter (·.1 ≠ name)

/-- Goes through a node by a header: a table that is missing is implied. -/
def passHeader (inner : Members → Option Members) : Option Node → Option Node
  | none => .table .implied <$> inner []
  | some (.table origin members) => .table origin <$> inner members
  | some (.series earlier last) => .series earlier <$> inner last
  | some (.value _) => none

/-- Does something in the table at the end of a way of headers. -/
def within : List String → (Members → Option Members) → Members → Option Members
  | [], inner, members => inner members
  | name :: names, inner, members => members.change name (passHeader (within names inner))

/-- Begins a table: there must be none of that name yet, unless it was implied; such a table moves
to the end. -/
def beginTable (name : String) (members : Members) : Option Members :=
  match members.lookup name with
  | none => some (members ++ [(name, .table .header [])])
  | some (.table .implied inner) => some (members.without name ++ [(name, .table .header inner)])
  | some _ => none

/-- Begins the next table of a series. -/
def beginItem (name : String) : Members → Option Members :=
  change name fun
    | none => some (.series [] [])
    | some (.series earlier last) => some (.series (earlier ++ [.table (toTable last)]) [])
    | some _ => none

/-- Adds a value under a new name. -/
def put (name : String) (value : Toml) (members : Members) : Option Members :=
  match members.lookup name with
  | none => some (members ++ [(name, .value value)])
  | some _ => none

/-- Goes through a node by a dotted key; at the end of the way nothing is added to a table that did
not come from a dotted key. -/
def passDotted (atEnd : Bool) (inner : Members → Option Members) : Option Node → Option Node
  | none => .table .dotted <$> inner []
  | some (.table .dotted members) => .table .dotted <$> inner members
  | some (.table .implied members) =>
    if atEnd then none else .table .implied <$> inner members
  | some (.table .header _) => none
  | some (.series earlier last) => if atEnd then none else .series earlier <$> inner last
  | some (.value _) => none

/-- Adds a value under a name in the table at the end of a way of dotted keys. -/
def assign : List String → String → Toml → Members → Option Members
  | [], name, value, members => members.put name value
  | parent :: parents, name, value, members =>
    members.change parent (passDotted parents.isEmpty (assign parents name value))

end Members

/-- The table of some entries alone. -/
def Members.ofEntries? (entries : List (Path × Toml)) : Option Members :=
  entries.foldlM (fun members entry => members.assign entry.1.parents entry.1.name entry.2) []

/-- A statement of a document. -/
inductive Statement where
  /-- The header of a table. -/
  | table (path : Path)
  /-- The header of the next table of a series. -/
  | item (path : Path)
  /-- A value in the table of the header before. -/
  | entry (path : Path) (value : Toml)
  deriving Repr

/-- A document up to some statement. -/
structure Draft where
  /-- The table at the top. -/
  members : Members := []
  /-- The way to the table to which entries are added. -/
  current : List String := []

/-- Carries a statement out, if it is allowed. -/
def Draft.perform (draft : Draft) : Statement → Option Draft
  | .table path => do
    let members ← draft.members.within path.parents (Members.beginTable path.name)
    return { members, current := path.names }
  | .item path => do
    let members ← draft.members.within path.parents (Members.beginItem path.name)
    return { members, current := path.names }
  | .entry path value => do
    let add := Members.assign path.parents path.name value
    return { draft with members := ← draft.members.within draft.current add }

/-- The table at the top of a document. -/
def ofStatements? (statements : List Statement) : Option (List (String × Toml)) := do
  let draft ← statements.foldlM Draft.perform {}
  return toTable draft.members

end LineTally.Toml
