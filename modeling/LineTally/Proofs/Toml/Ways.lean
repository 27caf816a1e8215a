import LineTally.Proofs.Toml.Fits

/-!
# What a document says

A value in a document is found by a way of names through tables.  A document can lay out the same
way in many forms: a header names the tables to go through, so does a dotted key, and so does a
table within a line.  What the tree of tables holds at the end of a way is exactly what some
statement names there, in whatever form and order the statements are written; only behind an array
there is nothing to be found.

One relation, `Gains`, says what a change does to a value, and each operation on trees is shown once
to stand in it.
-/

namespace LineTally.Toml

/-! ## Ways -/

/-- The value at the end of a way through tables. -/
def at? : Toml → List String → Option Toml
  | value, [] => some value
  | .table members, name :: names => (members.lookup name).bind (at? · names)
  | _, _ :: _ => none

/-- A value is found in another at the end of a way. -/
def Has (whole : Toml) (way : List String) (value : Toml) : Prop :=
  whole.at? way = some value

/-- The value is neither an array nor a table. -/
def IsLeaf : Toml → Prop
  | .array _ | .table _ => False
  | _ => True

/-- No array is on the way, but perhaps at its end. -/
def Passable : Toml → List String → Prop
  | _, [] => True
  | .table members, name :: names =>
    ∀ value, members.lookup name = some value → Passable value names
  | .array _, _ :: _ => False
  | _, _ :: _ => True

/-- In every table that a way leads to, each name stands once. -/
def NamesOnce (value : Toml) : Prop :=
  ∀ way members, value.at? way = some (.table members) → (members.map Prod.fst).Nodup

/-- What is said of ways, when they are continued from the end of another. -/
def Under (names : List String) (told : List String → Toml → Prop) (way : List String)
    (value : Toml) : Prop :=
  ∃ rest, way = names ++ rest ∧ told rest value

theorem at?_nil (value : Toml) : value.at? [] = some value := by
  cases value <;> rfl

theorem passable_nil (value : Toml) : value.Passable [] := by
  cases value <;> trivial

theorem at?_empty (way : List String) {value : Toml} (leaf : value.IsLeaf) :
    (Toml.table []).at? way ≠ some value := by
  cases way with
  | nil =>
      intro found
      cases found
      exact leaf
  | cons name names => nofun

theorem passable_empty (way : List String) : (Toml.table []).Passable way := by
  cases way with
  | nil => trivial
  | cons name names => nofun

theorem namesOnce_empty : NamesOnce (.table []) := by
  intro way members found
  cases way with
  | nil =>
      cases found
      exact List.nodup_nil
  | cons name names => cases found

theorem NamesOnce.nodup {members : List (String × Toml)} (once : NamesOnce (.table members)) :
    (members.map Prod.fst).Nodup :=
  once [] members (at?_nil _)

/-- The values in a table inherit that names stand once. -/
theorem NamesOnce.lookup {members : List (String × Toml)} (once : NamesOnce (.table members))
    {name : String} {value : Toml} (found : members.lookup name = some value) :
    value.NamesOnce := by
  intro way inner ends
  refine once (name :: way) inner ?_
  rw [at?, found]
  exact ends

/-- Nothing is found behind a value that is no table. -/
theorem namesOnce_of_ne_table {value : Toml} (other : ∀ members, value ≠ .table members) :
    value.NamesOnce := by
  intro way members found
  cases way with
  | nil =>
      rw [at?_nil] at found
      exact absurd (Option.some.inj found) (other members)
  | cons name names =>
      cases value with
      | table inner => exact absurd rfl (other inner)
      | string | integer | real | boolean | moment | array => cases found

theorem under_nil (told : List String → Toml → Prop) : Under [] told = told := by
  funext way value
  refine propext ⟨?_, fun said => ⟨way, rfl, said⟩⟩
  rintro ⟨rest, rfl, said⟩
  exact said

theorem under_append (before behind : List String) (told : List String → Toml → Prop) :
    Under (before ++ behind) told = Under before (Under behind told) := by
  funext way value
  refine propext ⟨?_, ?_⟩
  · rintro ⟨rest, rfl, said⟩
    exact ⟨behind ++ rest, List.append_assoc .., rest, rfl, said⟩
  · rintro ⟨_, rfl, rest, rfl, said⟩
    exact ⟨rest, (List.append_assoc ..).symm, said⟩

theorem under_singleton {name other : String} {names : List String} {value : Toml}
    {told : List String → Toml → Prop} :
    Under [name] told (other :: names) value ↔ other = name ∧ told names value := by
  constructor
  · rintro ⟨rest, same, said⟩
    cases same
    exact ⟨rfl, said⟩
  · rintro ⟨rfl, said⟩
    exact ⟨names, rfl, said⟩

/-! ## What a value gains -/

/-- Nothing is said. -/
def Nothing : List String → Toml → Prop :=
  fun _ _ => False

theorem under_nothing (names : List String) : Under names Nothing = Nothing := by
  funext way value
  refine propext ⟨?_, False.elim⟩
  rintro ⟨rest, -, said⟩
  exact said

/-- A new value holds at the ends of ways what an old one held, and what is said of it besides;
arrays stay where they are, and names are not doubled. -/
structure Gains (told : List String → Toml → Prop) (old new : Toml) : Prop where
  leaf : ∀ {way value}, value.IsLeaf → new.Passable way →
    (new.at? way = some value ↔ old.at? way = some value ∨ told way value)
  passable : ∀ {way}, new.Passable way → old.Passable way
  once : old.NamesOnce → new.NamesOnce

namespace Gains

theorem refl (value : Toml) : Gains Nothing value value where
  leaf _ _ := (or_iff_left id).symm
  passable := id
  once := id

theorem trans {first second : List String → Toml → Prop} {old middle new : Toml}
    (before : Gains first old middle) (after : Gains second middle new) :
    Gains (fun way value => first way value ∨ second way value) old new where
  leaf isLeaf passable := by
    rw [after.leaf isLeaf passable, before.leaf isLeaf (after.passable passable), or_assoc]
  passable := before.passable ∘ after.passable
  once := after.once ∘ before.once

/-- A value that comes where nothing was is all that there is. -/
theorem of_empty {value : Toml} (once : value.NamesOnce) : Gains value.Has (.table []) value where
  leaf isLeaf _ := (or_iff_right (at?_empty _ isLeaf)).symm
  passable _ := passable_empty _
  once _ := once

/-- Something that stands for an array or a table can become an array, as nothing is found in it. -/
theorem array {told : List String → Toml → Prop} {old : Toml} (branch : ¬ old.IsLeaf)
    (inside : ∀ value, value.IsLeaf → ¬ told [] value) (items : List Toml) :
    Gains told old (.array items) where
  leaf {way value} isLeaf passable := by
    cases way with
    | cons name names => exact passable.elim
    | nil =>
        rw [at?_nil, at?_nil, Option.some.injEq, Option.some.injEq]
        constructor
        · rintro rfl
          exact isLeaf.elim
        · rintro (rfl | said)
          · exact absurd isLeaf branch
          · exact absurd said (inside value isLeaf)
  passable {way} passable := by
    cases way with
    | cons name names => exact passable.elim
    | nil => exact passable_nil old
  once _ := namesOnce_of_ne_table nofun

/-- Nothing is said of a table itself. -/
theorem inside {told : List String → Toml → Prop} {old : Toml} {members : List (String × Toml)}
    (gains : Gains told old (.table members)) (value : Toml) (isLeaf : value.IsLeaf) :
    ¬ told [] value := by
  intro said
  have found := (gains.leaf isLeaf (passable_nil _)).mpr (.inr said)
  rw [at?_nil, Option.some.injEq] at found
  rw [← found] at isLeaf
  exact isLeaf

end Gains

/-! ## One member of a table -/

/-- What a name stands for among the members of a table; for no value, an empty table will do. -/
def valueIn (members : List (String × Toml)) (name : String) : Toml :=
  (members.lookup name).getD (.table [])

/-- A name stands for a new value, other names for what they stood for, and none is doubled. -/
structure Alters (name : String) (new : Toml) (members changed : List (String × Toml)) : Prop where
  lookup : ∀ other, changed.lookup other = if other = name then some new else members.lookup other
  once : (members.map Prod.fst).Nodup → (changed.map Prod.fst).Nodup

theorem at?_valueIn {members : List (String × Toml)} {name : String} {names : List String}
    {value : Toml} (isLeaf : value.IsLeaf) :
    (valueIn members name).at? names = some value ↔
      (Toml.table members).at? (name :: names) = some value := by
  rw [at?, valueIn]
  cases members.lookup name with
  | none => exact ⟨fun found => absurd found (at?_empty names isLeaf), nofun⟩
  | some found => rfl

theorem passable_valueIn {members : List (String × Toml)} {name : String} {names : List String} :
    (valueIn members name).Passable names ↔ (Toml.table members).Passable (name :: names) := by
  rw [Passable, valueIn]
  cases members.lookup name with
  | none => exact ⟨fun _ => nofun, fun _ => passable_empty names⟩
  | some found =>
      refine ⟨fun open' value same => ?_, fun open' => open' found rfl⟩
      cases same
      exact open'

theorem NamesOnce.valueIn {members : List (String × Toml)} (once : NamesOnce (.table members))
    (name : String) : (valueIn members name).NamesOnce := by
  rw [Toml.valueIn]
  cases held : members.lookup name with
  | none => exact namesOnce_empty
  | some value => exact once.lookup held

/-- What one member gains is said of the table under its name. -/
theorem Alters.gains {told : List String → Toml → Prop} {name : String} {new : Toml}
    {members changed : List (String × Toml)} (alters : Alters name new members changed)
    (gains : Gains told (valueIn members name) new) :
    Gains (Under [name] told) (.table members) (.table changed) where
  leaf {way value} isLeaf passable := by
    cases way with
    | nil =>
        rw [at?_nil, at?_nil, Option.some.injEq, Option.some.injEq]
        constructor
        · rintro rfl
          exact isLeaf.elim
        · rintro (rfl | ⟨rest, same, -⟩)
          · exact isLeaf.elim
          · cases same
    | cons other names =>
        rw [under_singleton, at?, alters.lookup]
        split
        next same =>
          subst same
          have open' : new.Passable names := passable new (by rw [alters.lookup, if_pos rfl])
          rw [Option.bind_some, gains.leaf isLeaf open', at?_valueIn isLeaf, and_iff_right rfl]
        next different =>
          rw [at?]
          exact (or_iff_left fun said => different said.1).symm
  passable {way} passable := by
    cases way with
    | nil => trivial
    | cons other names =>
        by_cases same : other = name
        · subst same
          exact passable_valueIn.mp
            (gains.passable (passable new (by rw [alters.lookup, if_pos rfl])))
        · exact fun value found => passable value (by rw [alters.lookup, if_neg same, found])
  once once := by
    intro way inner found
    cases way with
    | nil =>
        cases found
        exact alters.once once.nodup
    | cons other names =>
        rw [at?, alters.lookup] at found
        split at found
        next => exact gains.once (once.valueIn name) names inner found
        next =>
          rcases Option.bind_eq_some_iff.mp found with ⟨value, held, ends⟩
          exact once.lookup held names inner ends

theorem lookup_eq_none_iff {α : Type} {members : List (String × α)} {name : String} :
    members.lookup name = none ↔ name ∉ members.map Prod.fst := by
  rw [List.lookup_eq_none_iff, List.mem_map]
  simp only [bne_iff_ne]
  constructor
  · rintro other ⟨member, among, same⟩
    exact other member among same.symm
  · exact fun other member among same => other ⟨member, among, same.symm⟩

/-- Where each name stands once, whatever stands there is found. -/
theorem lookup_of_mem {members : List (String × Toml)} {name : String} {value : Toml}
    (once : (members.map Prod.fst).Nodup) (among : (name, value) ∈ members) :
    members.lookup name = some value := by
  rcases List.append_of_mem among with ⟨before, behind, rfl⟩
  rw [List.map_append, List.nodup_append] at once
  refine List.lookup_eq_some_iff.mpr ⟨before, behind, rfl, fun member earlier => ?_⟩
  exact bne_iff_ne.mpr (once.2.2 _ (List.mem_map_of_mem earlier) _ List.mem_cons_self).symm

/-- A new name can come last. -/
theorem alters_append {members : List (String × Toml)} {name : String} (new : Toml)
    (missing : members.lookup name = none) :
    Alters name new members (members ++ [(name, new)]) where
  lookup other := by
    rw [List.lookup_append]
    by_cases same : other = name
    · subst same
      rw [if_pos rfl, missing, Option.none_or, List.lookup_cons_self]
    · rw [if_neg same, List.lookup_cons, beq_false_of_ne same, List.lookup_nil, Option.or_none]
  once once := by
    rw [List.map_append]
    refine List.nodup_append.mpr ⟨once, List.pairwise_singleton _ name, ?_⟩
    rintro _ among _ last rfl
    rw [List.mem_singleton.mp last] at among
    exact lookup_eq_none_iff.mp missing among

/-! ## Operations on trees -/

theorem lookup_toTable (members : Members) (name : String) :
    (toTable members).lookup name = (members.lookup name).map Node.toToml := by
  induction members with
  | nil => rfl
  | cons member members ih =>
      rcases member with ⟨other, node⟩
      rw [toTable, toMember, List.lookup_cons, List.lookup_cons]
      split
      · rfl
      · exact ih

theorem toTable_append (members later : Members) :
    toTable (members ++ later) = toTable members ++ toTable later := by
  rw [toTable_eq_map, toTable_eq_map, toTable_eq_map, List.map_append]

/-- The value of what a name stands for; for nothing yet, an empty table will do. -/
def valueOf (node : Option Node) : Toml :=
  (node.map Node.toToml).getD (.table [])

theorem valueIn_toTable (members : Members) (name : String) :
    valueIn (toTable members) name = valueOf (members.lookup name) := by
  rw [valueIn, lookup_toTable, valueOf]

namespace Members

/-- A table gains by a change what is said. -/
def Adds (told : List String → Toml → Prop) (inner : Members → Option Members) : Prop :=
  ∀ members changed, inner members = some changed →
    Gains told (.table (toTable members)) (.table (toTable changed))

theorem alters_of_change {name : String} {alter : Option Node → Option Node} {members : Members} :
    ∀ {changed : Members}, change name alter members = some changed →
      ∃ new, alter (members.lookup name) = some new ∧
        Alters name new.toToml (toTable members) (toTable changed) := by
  induction members with
  | nil =>
      intro changed made
      rcases Option.bind_eq_some_iff.mp made with ⟨new, altered, same⟩
      cases same
      exact ⟨new, altered, alters_append new.toToml rfl⟩
  | cons first members ih =>
      rcases first with ⟨held, node⟩
      intro changed made
      rw [change] at made
      split at made
      next same =>
        change held = name at same
        subst same
        rcases Option.bind_eq_some_iff.mp made with ⟨new, altered, same⟩
        cases same
        refine ⟨new, by rwa [List.lookup_cons_self], ⟨fun other => ?_, id⟩⟩
        rw [toTable, toTable, toMember, toMember]
        by_cases same : other = held
        · subst same
          rw [if_pos rfl, List.lookup_cons_self]
        · rw [if_neg same, List.lookup_cons, List.lookup_cons, beq_false_of_ne same]
      next different =>
        change held ≠ name at different
        rcases Option.bind_eq_some_iff.mp made with ⟨others, later, same⟩
        cases same
        rcases ih later with ⟨new, altered, alters⟩
        refine ⟨new, ?_, ⟨fun other => ?_, fun once => ?_⟩⟩
        · rwa [List.lookup_cons, beq_false_of_ne (Ne.symm different)]
        · rw [toTable, toTable, toMember]
          by_cases same : other = held
          · subst same
            rw [if_neg different, List.lookup_cons_self, List.lookup_cons_self]
          · rw [List.lookup_cons, List.lookup_cons, beq_false_of_ne same]
            exact alters.lookup other
        · rw [toTable, toMember, List.map_cons, List.nodup_cons, ← lookup_eq_none_iff] at once ⊢
          rw [alters.lookup, if_neg different]
          exact ⟨once.1, alters.once once.2⟩

theorem adds_change {told : List String → Toml → Prop} {alter : Option Node → Option Node}
    (gains : ∀ old new, alter old = some new → Gains told (valueOf old) new.toToml)
    (name : String) : Adds (Under [name] told) (change name alter) := by
  intro members changed made
  rcases alters_of_change made with ⟨new, made, alters⟩
  refine alters.gains ?_
  rw [valueIn_toTable]
  exact gains _ new made

theorem Passes.gains {told : List String → Toml → Prop} {inner : Members → Option Members}
    {old : Option Node} {new : Node} (adds : Adds told inner) (passes : Passes inner old new) :
    Gains told (valueOf old) new.toToml := by
  cases passes with
  | missing made => exact adds _ _ made
  | table made => exact adds _ _ made
  | series made => exact .array id (adds _ _ made).inside _

theorem adds_within {told : List String → Toml → Prop} {inner : Members → Option Members}
    (adds : Adds told inner) (names : List String) :
    Adds (Under names told) (within names inner) := by
  induction names with
  | nil =>
      rw [under_nil]
      exact adds
  | cons name names ih =>
      rw [← List.singleton_append, under_append]
      exact adds_change (fun _ _ passed => (passes_of_passHeader passed).gains ih) name

theorem lookup_without {name other : String} (different : other ≠ name) (members : Members) :
    (members.without name).lookup other = members.lookup other := by
  induction members with
  | nil => rfl
  | cons member members ih =>
      rcases member with ⟨held, node⟩
      rw [without] at ih ⊢
      by_cases dropped : held = name
      · subst dropped
        rw [List.filter_cons_of_neg (by simp), List.lookup_cons, beq_false_of_ne different]
        exact ih
      · rw [List.filter_cons_of_pos (by simpa using dropped), List.lookup_cons, List.lookup_cons,
          ih]

theorem lookup_without_self (name : String) (members : Members) :
    (members.without name).lookup name = none := by
  rw [lookup_eq_none_iff, List.mem_map]
  rintro ⟨member, among, same⟩
  exact of_decide_eq_true (List.mem_filter.mp among).2 same

/-- The name of a member can move to the end. -/
theorem alters_without (name : String) (new : Node) (members : Members) :
    Alters name new.toToml (toTable members) (toTable (members.without name ++ [(name, new)])) := by
  have moved : (toTable (members.without name)).lookup name = none := by
    rw [lookup_toTable, lookup_without_self, Option.map_none]
  have last := alters_append new.toToml moved
  rw [toTable_append]
  refine ⟨fun other => ?_, fun once => last.once ?_⟩
  · refine (last.lookup other).trans ?_
    by_cases same : other = name
    · rw [if_pos same, if_pos same]
    · rw [if_neg same, if_neg same, lookup_toTable, lookup_toTable, lookup_without same]
  · rw [toTable_eq_map] at once ⊢
    exact once.sublist ((List.filter_sublist.map _).map _)

theorem adds_beginTable (name : String) : Adds Nothing (beginTable name) := by
  intro members changed made
  rw [← under_nothing [name]]
  unfold beginTable at made
  split at made
  next missing =>
    cases made
    rw [toTable_append]
    refine (alters_append (.table []) ?_).gains ?_
    · rw [lookup_toTable, missing, Option.map_none]
    · rw [valueIn_toTable, missing]
      exact .refl _
  next inner found =>
    cases made
    refine (alters_without name (.table .header inner) members).gains ?_
    rw [valueIn_toTable, found]
    exact .refl _
  next => cases made

theorem adds_beginItem (name : String) : Adds Nothing (beginItem name) := by
  rw [← under_nothing [name]]
  refine adds_change (fun old new made => ?_) name
  split at made
  next =>
    cases made
    exact .array id (fun _ _ => id) _
  next =>
    cases made
    exact .array id (fun _ _ => id) _
  next => cases made

theorem adds_put (name : String) {value : Toml} (once : value.NamesOnce) :
    Adds (Under [name] value.Has) (put name value) := by
  intro members changed made
  unfold put at made
  split at made
  next missing =>
    cases made
    rw [toTable_append]
    refine (alters_append value ?_).gains ?_
    · rw [lookup_toTable, missing, Option.map_none]
    · rw [valueIn_toTable, missing]
      exact .of_empty once
  next => cases made

theorem adds_assign (parents : List String) (name : String) {value : Toml}
    (once : value.NamesOnce) :
    Adds (Under (parents ++ [name]) value.Has)
      (assign parents name value) := by
  induction parents with
  | nil => exact adds_put name once
  | cons parent parents ih =>
      rw [List.cons_append, ← List.singleton_append, under_append]
      exact adds_change (fun _ _ passed => (passes_of_passDotted passed).gains ih) parent

end Members

/-! ## Statements -/

/-- What a statement says below a header. -/
def Statement.tells (header : List String) : Statement → List String → Toml → Prop
  | .table _ | .item _ => Nothing
  | .entry path value => Under (header ++ path.names) value.Has

/-- The header that the next statement is below. -/
def Statement.header (before : List String) : Statement → List String
  | .table path | .item path => path.names
  | .entry _ _ => before

/-- The values of all entries, each with its whole way. -/
def named (header : List String) : List Statement → List (List String × Toml)
  | [] => []
  | .table path :: statements | .item path :: statements => named path.names statements
  | .entry path value :: statements => (header ++ path.names, value) :: named header statements

/-- Some statement names a value at the end of a way, by itself or inside of what it names. -/
def Names (header : List String) (statements : List Statement) (way : List String)
    (value : Toml) : Prop :=
  ∃ entry ∈ named header statements, Under entry.1 entry.2.Has way value

theorem names_nil (header : List String) : Names header [] = Nothing := by
  funext way value
  exact propext ⟨nofun, False.elim⟩

theorem names_cons (header : List String) (statement : Statement) (statements : List Statement) :
    Names header (statement :: statements) = fun way value =>
      statement.tells header way value ∨ Names (statement.header header) statements way value := by
  funext way value
  cases statement with
  | table | item => exact propext (or_iff_right id).symm
  | entry path given => simp only [Names, named, List.mem_cons, exists_eq_or_imp, Statement.tells,
      Statement.header]

/-- An entry below a header names what a dotted key would name. -/
theorem names_below (header : List String) (path inner : Path) (value : Toml) :
    Names header [.table path, .entry inner value] =
      Names [] [.entry ⟨path.names ++ inner.parents, inner.name⟩ value] := by
  funext way found
  simp only [Names, named, List.mem_singleton, exists_eq_left, List.nil_append, Path.names,
    List.append_assoc]

/-- A table within a line names what a dotted key would name. -/
theorem names_inline (header : List String) (path : Path) (name : String) (value : Toml)
    {way : List String} {found : Toml} (isLeaf : found.IsLeaf) :
    Names header [.entry path (.table [(name, value)])] way found ↔
      Names header [.entry ⟨path.names, name⟩ value] way found := by
  have inside (rest : List String) :
      (Toml.table [(name, value)]).Has rest found ↔ Under [name] value.Has rest found := by
    constructor
    · intro has
      cases rest with
      | nil =>
          cases has
          exact isLeaf.elim
      | cons other names =>
          rw [Has, at?, List.lookup_cons] at has
          split at has
          next same => exact under_singleton.mpr ⟨eq_of_beq same, has⟩
          next => cases has
    · rintro ⟨names, rfl, has⟩
      rw [Has, List.singleton_append, at?, List.lookup_cons_self]
      exact has
  have dotted : Path.names ⟨path.names, name⟩ = path.names ++ [name] := rfl
  simp only [Names, named, List.mem_singleton, exists_eq_left, dotted]
  rw [← List.append_assoc, under_append (header ++ path.names) [name]]
  simp only [Under, inside]

theorem Draft.gains_of_perform {draft next : Draft} {statement : Statement}
    (once : ∀ path value, statement = .entry path value → value.NamesOnce)
    (performed : draft.perform statement = some next) :
    Gains (statement.tells draft.current) (.table (toTable draft.members))
      (.table (toTable next.members)) ∧ next.current = statement.header draft.current := by
  cases statement with
  | table path =>
      rcases Option.bind_eq_some_iff.mp performed with ⟨changed, made, same⟩
      cases same
      have adds := Members.adds_within (Members.adds_beginTable path.name) path.parents
      rw [under_nothing] at adds
      exact ⟨adds _ _ made, rfl⟩
  | item path =>
      rcases Option.bind_eq_some_iff.mp performed with ⟨changed, made, same⟩
      cases same
      have adds := Members.adds_within (Members.adds_beginItem path.name) path.parents
      rw [under_nothing] at adds
      exact ⟨adds _ _ made, rfl⟩
  | entry path value =>
      rcases Option.bind_eq_some_iff.mp performed with ⟨changed, made, same⟩
      cases same
      have adds := Members.adds_within
        (Members.adds_assign path.parents path.name (once path value rfl)) draft.current
      rw [← under_append] at adds
      exact ⟨adds _ _ made, rfl⟩

/-- The values that statements name have each name once. -/
def EntriesOnce (statements : List Statement) : Prop :=
  ∀ path value, Statement.entry path value ∈ statements → value.NamesOnce

/-- A document gains by some statements what they name. -/
theorem Draft.gains_of_foldlM {statements : List Statement} :
    ∀ {draft last : Draft}, EntriesOnce statements →
      statements.foldlM Draft.perform draft = some last →
      Gains (Names draft.current statements) (.table (toTable draft.members))
        (.table (toTable last.members)) := by
  induction statements with
  | nil =>
      intro draft last once performed
      cases performed
      rw [names_nil]
      exact .refl _
  | cons statement statements ih =>
      intro draft last once performed
      rw [List.foldlM_cons, Option.bind_eq_bind, Option.bind_eq_some_iff] at performed
      rcases performed with ⟨next, performed, later⟩
      rcases Draft.gains_of_perform
        (fun path value same => once path value (List.mem_cons.mpr (.inl same.symm))) performed
        with ⟨gains, header⟩
      have rest := ih (fun path value among => once path value (List.mem_cons_of_mem _ among)) later
      rw [names_cons, ← header]
      exact gains.trans rest

/-- What a document holds at the ends of ways is what its statements name there. -/
theorem gains_of_ofStatements? {statements : List Statement} {members : List (String × Toml)}
    (once : EntriesOnce statements) (made : ofStatements? statements = some members) :
    Gains (Names [] statements) (.table []) (.table members) := by
  rcases Option.bind_eq_some_iff.mp made with ⟨draft, performed, same⟩
  cases same
  exact Draft.gains_of_foldlM once performed

/-! ## Documents -/

/-- In the table that some members make, every name stands once. -/
def Members.Once (members : Members) : Prop :=
  NamesOnce (.table (toTable members))

/-- A table within a line has each name once, if the values of its entries do. -/
theorem Members.once_of_ofEntries? {entries : List (Path × Toml)} {members : Members}
    (once : ∀ entry ∈ entries, entry.2.NamesOnce)
    (made : Members.ofEntries? entries = some members) : members.Once :=
  have empty : Members.Once [] := namesOnce_empty
  kept_of_foldlM (m := Option) (fun entry among members changed kept assigned =>
    (adds_assign _ _ (once entry among) members changed assigned).once kept) empty made

theorem namesOnce_inherited : Inherited NamesOnce where
  string _ := namesOnce_of_ne_table nofun
  scalar read := by
    cases scalar_of_readScalar read with
    | integer | real | boolean | moment => exact namesOnce_of_ne_table nofun
  array _ := namesOnce_of_ne_table nofun
  table := Members.once_of_ofEntries?

/-- The statements of a text that is a document. -/
def statements? (text : String) : Option (List Statement) :=
  let chars := dropMark (unifyNewlines text.toList)
  readStatements (chars.length + 1) chars

theorem parse_eq_bind (text : String) : parse text = (statements? text).bind ofStatements? :=
  rfl

theorem entriesOnce_of_statements? {text : String} {statements : List Statement}
    (read : statements? text = some statements) : EntriesOnce statements :=
  namesOnce_inherited.of_readStatements read

/-- In a document every name stands once. -/
theorem namesOnce_of_parse {text : String} {members : List (String × Toml)}
    (parsed : parse text = some members) : NamesOnce (.table members) := by
  rcases Option.bind_eq_some_iff.mp parsed with ⟨statements, read, made⟩
  exact (gains_of_ofStatements? (entriesOnce_of_statements? read) made).once namesOnce_empty

/-- Where no array is on the way, a document holds what its statements name, in whatever form. -/
theorem at?_eq_some_iff_names {text : String} {statements : List Statement}
    {members : List (String × Toml)} (read : statements? text = some statements)
    (made : ofStatements? statements = some members) {way : List String} {value : Toml}
    (isLeaf : value.IsLeaf) (passable : (Toml.table members).Passable way) :
    (Toml.table members).at? way = some value ↔ Names [] statements way value := by
  have gains := gains_of_ofStatements? (entriesOnce_of_statements? read) made
  rw [gains.leaf isLeaf passable]
  exact or_iff_right (at?_empty way isLeaf)

end LineTally.Toml
