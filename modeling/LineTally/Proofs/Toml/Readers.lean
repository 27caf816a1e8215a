import LineTally.Toml.Parser

/-!
# What holds of all values that are read

The readers of values, items and entries call each other, and so an induction over what they read
goes through all three.  It is made here once, for everything that goes over from the parts of a
value to the whole.
-/

namespace LineTally.Toml

/-- Holds of what is read in one piece, and of an array or a table if it holds of its parts. -/
structure Inherited (Good : Toml → Prop) : Prop where
  string : ∀ value, Good (.string value)
  scalar : ∀ {text rest value}, readScalar text = some (value, rest) → Good value
  array : ∀ {items}, (∀ item ∈ items, Good item) → Good (.array items)
  table : ∀ {entries members}, (∀ entry ∈ entries, Good entry.2) →
    Members.ofEntries? entries = some members → Good (.table (toTable members))

/-- All values are good that the readers split off by some number of parts. -/
structure Finds (Good : Toml → Prop) (parts : Nat) : Prop where
  value : ∀ {depth text value rest}, readValue parts depth text = some (value, rest) → Good value
  items : ∀ {depth text items rest}, readItems parts depth text = some (items, rest) →
    ∀ item ∈ items, Good item
  entries : ∀ {depth text entries rest}, readEntries parts depth text = some (entries, rest) →
    ∀ entry ∈ entries, Good entry.2

namespace Finds

variable {Good : Toml → Prop} {parts : Nat} (finds : Finds Good parts)
include finds

theorem items_succ {depth : Nat} {text rest : List Char}
    {items : List Toml} (read : readItems (parts + 1) depth text = some (items, rest)) :
    ∀ item ∈ items, Good item := by
  unfold readItems at read
  split at read
  · cases read
    exact nofun
  · rcases Option.bind_eq_some_iff.mp read with ⟨⟨item, behind⟩, first, read⟩
    dsimp only at read
    split at read
    next =>
      rcases Option.bind_eq_some_iff.mp read with ⟨⟨others, behind⟩, inside, same⟩
      cases same
      exact List.forall_mem_cons.mpr ⟨finds.value first, finds.items inside⟩
    next =>
      cases read
      exact List.forall_mem_singleton.mpr (finds.value first)
    next => cases read

theorem entries_succ {depth : Nat} {text rest : List Char}
    {entries : List (Path × Toml)}
    (read : readEntries (parts + 1) depth text = some (entries, rest)) :
    ∀ entry ∈ entries, Good entry.2 := by
  unfold readEntries at read
  rcases Option.bind_eq_some_iff.mp read with ⟨⟨path, behind⟩, -, read⟩
  dsimp only at read
  split at read
  next =>
    rcases Option.bind_eq_some_iff.mp read with ⟨⟨value, behind⟩, first, read⟩
    dsimp only at read
    split at read
    next =>
      rcases Option.bind_eq_some_iff.mp read with ⟨⟨others, behind⟩, inside, same⟩
      cases same
      exact List.forall_mem_cons.mpr ⟨finds.value first, finds.entries inside⟩
    next =>
      cases read
      exact List.forall_mem_singleton.mpr (finds.value first)
    next => cases read
  next => cases read

end Finds

namespace Inherited

variable {Good : Toml → Prop} (inherited : Inherited Good) {parts : Nat}
include inherited

theorem value_succ (finds : Finds Good parts) {depth : Nat} {text rest : List Char} {value : Toml}
    (read : readValue (parts + 1) depth text = some (value, rest)) : Good value := by
  unfold readValue at read
  split at read
  next =>
    rcases Option.map_eq_some_iff.mp read with ⟨found, -, same⟩
    cases same
    exact inherited.string _
  next =>
    rcases Option.map_eq_some_iff.mp read with ⟨found, -, same⟩
    cases same
    exact inherited.string _
  next =>
    rcases Option.bind_eq_some_iff.mp read with ⟨⟨found, behind⟩, inside, same⟩
    cases same
    exact inherited.array (finds.items inside)
  next =>
    dsimp only at read
    split at read
    all_goals
      rcases Option.bind_eq_some_iff.mp read with ⟨⟨found, behind⟩, inside, read⟩
      rcases Option.bind_eq_some_iff.mp read with ⟨members, made, same⟩
      cases same
      refine inherited.table ?_ made
    · cases inside
      exact nofun
    · exact finds.entries inside
  next => exact inherited.scalar read

/-- All values that the readers split off are good, however many parts they may read. -/
theorem finds (parts : Nat) : Finds Good parts := by
  induction parts with
  | zero => exact ⟨nofun, nofun, nofun⟩
  | succ parts ih => exact ⟨inherited.value_succ ih, ih.items_succ, ih.entries_succ⟩

theorem of_readStatement {text rest : List Char} {path : Path} {value : Toml}
    (read : readStatement text = some (.entry path value, rest)) : Good value := by
  unfold readStatement at read
  split at read
  next =>
    unfold readHeader at read
    split at read
    all_goals
      rcases Option.bind_eq_some_iff.mp read with ⟨found, -, read⟩
      split at read <;> cases read
  next =>
    rcases Option.bind_eq_some_iff.mp read with ⟨found, -, read⟩
    split at read
    · rcases Option.bind_eq_some_iff.mp read with ⟨⟨value, behind⟩, inside, same⟩
      cases same
      exact (inherited.finds _).value inside
    · cases read

/-- The values of all entries of a document are good. -/
theorem of_readStatements {lines : Nat} :
    ∀ {text : List Char} {statements : List Statement},
      readStatements lines text = some statements →
      ∀ path value, Statement.entry path value ∈ statements → Good value := by
  induction lines with
  | zero => exact nofun
  | succ lines ih =>
      intro text statements read path value among
      unfold readStatements at read
      split at read
      · cases read
        cases among
      · rcases Option.bind_eq_some_iff.mp read with ⟨⟨statement, behind⟩, first, read⟩
        rcases Option.bind_eq_some_iff.mp read with ⟨rest, -, read⟩
        rcases Option.bind_eq_some_iff.mp read with ⟨later, inside, same⟩
        cases same
        rcases List.mem_cons.mp among with rfl | among
        · exact inherited.of_readStatement first
        · exact ih inside path value among

end Inherited

end LineTally.Toml
