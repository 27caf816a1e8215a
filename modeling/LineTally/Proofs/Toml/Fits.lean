import LineTally.Proofs.Folds
import LineTally.Proofs.Toml.Readers

/-!
# Whole numbers of a document fit 64 bits

Every whole number that is read from a document fits 64 bits with a sign.  A number is checked where
it is read; what comes after only moves values about: readers put them into arrays and tables, and
statements into a tree of tables, whose members all fit at every step.
-/

namespace LineTally.Toml

/-- All whole numbers in the value fit 64 bits with a sign. -/
inductive Fits : Toml → Prop where
  | string (value : String) : Fits (.string value)
  | integer {value : Int} (within : -Int.ofNat (Nat.pow 2 63) ≤ value ∧
      value < Int.ofNat (Nat.pow 2 63)) : Fits (.integer value)
  | real (value : Float) : Fits (.real value)
  | boolean (value : Bool) : Fits (.boolean value)
  | moment (text : String) : Fits (.moment text)
  | array {items : List Toml} (each : ∀ item ∈ items, Fits item) : Fits (.array items)
  | table {members : List (String × Toml)} (each : ∀ member ∈ members, Fits member.2) :
      Fits (.table members)

/-! ## Trees -/

/-- The values of all members fit. -/
def Members.Fit (members : Members) : Prop :=
  ∀ member ∈ members, member.2.toToml.Fits

theorem toTable_eq_map (members : Members) :
    toTable members = members.map fun member => (member.1, member.2.toToml) := by
  induction members with
  | nil => rfl
  | cons member members ih =>
      rcases member with ⟨name, node⟩
      rw [toTable, ih, toMember, List.map_cons]

theorem mem_of_lookup_eq_some {α : Type} {members : List (String × α)} {name : String} {value : α}
    (found : members.lookup name = some value) : (name, value) ∈ members := by
  rcases List.lookup_eq_some_iff.mp found with ⟨before, behind, split, -⟩
  rw [split]
  exact List.mem_append_right before List.mem_cons_self

/-- The members of a table fit exactly if their values do. -/
theorem Members.fit_iff {members : Members} :
    members.Fit ↔ ∀ member ∈ toTable members, member.2.Fits := by
  rw [toTable_eq_map, List.forall_mem_map]
  rfl

theorem fits_table_iff {members : Members} :
    Fits (.table (toTable members)) ↔ members.Fit := by
  rw [Members.fit_iff]
  constructor
  · intro fits
    cases fits with
    | table each => exact each
  · exact .table

/-- The change of a table leaves members that fit. -/
def Keeps (inner : Members → Option Members) : Prop :=
  ∀ members changed, Members.Fit members → inner members = some changed → Members.Fit changed

/-- The change of a member leaves a value that fits. -/
def KeepsNode (alter : Option Node → Option Node) : Prop :=
  ∀ old new, (∀ node ∈ old, node.toToml.Fits) → alter old = some new → new.toToml.Fits

/-- A series fits if its tables do. -/
theorem fits_series_iff {earlier : List Toml} {last : Members} :
    (Node.series earlier last).toToml.Fits ↔
      (∀ item ∈ earlier, item.Fits) ∧ Members.Fit last := by
  rw [Node.toToml, ← fits_table_iff]
  constructor
  · intro fits
    cases fits with
    | array each =>
        exact ⟨fun item member => each item (List.mem_append_left _ member),
          each _ (List.mem_append_right _ List.mem_cons_self)⟩
  · rintro ⟨before, open'⟩
    refine .array fun item member => ?_
    rcases List.mem_append.mp member with member | member
    · exact before item member
    · rw [List.mem_singleton.mp member]
      exact open'

theorem fits_node_table_iff {origin : Origin} {members : Members} :
    (Node.table origin members).toToml.Fits ↔ Members.Fit members := by
  rw [Node.toToml, fits_table_iff]

namespace Members

theorem keeps_change (name : String) {alter : Option Node → Option Node} (keeps : KeepsNode alter) :
    Keeps (change name alter) := by
  intro members
  induction members with
  | nil =>
      intro changed fit made
      rw [change, Option.bind_eq_bind, Option.bind_eq_some_iff] at made
      rcases made with ⟨new, made, same⟩
      cases same
      intro member among
      rw [List.mem_singleton.mp among]
      exact keeps none new nofun made
  | cons first members ih =>
      intro changed fit made
      have later : Members.Fit members := fun member among =>
        fit member (List.mem_cons_of_mem first among)
      rw [change] at made
      split at made
      · rw [Option.bind_eq_bind, Option.bind_eq_some_iff] at made
        rcases made with ⟨new, made, same⟩
        cases same
        intro member among
        rcases List.mem_cons.mp among with rfl | among
        · refine keeps (some first.2) new (fun node same => ?_) made
          cases Option.some.inj same
          exact fit first List.mem_cons_self
        · exact later member among
      · rw [Option.bind_eq_bind, Option.bind_eq_some_iff] at made
        rcases made with ⟨others, made, same⟩
        cases same
        intro member among
        rcases List.mem_cons.mp among with rfl | among
        · exact fit member List.mem_cons_self
        · exact ih others later made member among

/-- No members fit. -/
theorem fit_nil : Members.Fit [] :=
  nofun

/-- What going through a node by a header or a dotted key comes to. -/
inductive Passes (inner : Members → Option Members) : Option Node → Node → Prop
  | missing {origin changed} (made : inner [] = some changed) :
      Passes inner none (.table origin changed)
  | table {origin members changed} (made : inner members = some changed) :
      Passes inner (some (.table origin members)) (.table origin changed)
  | series {earlier last changed} (made : inner last = some changed) :
      Passes inner (some (.series earlier last)) (.series earlier changed)

theorem passes_of_passHeader {inner : Members → Option Members} {old : Option Node} {new : Node}
    (passed : passHeader inner old = some new) : Passes inner old new := by
  unfold passHeader at passed
  split at passed
  next =>
    rcases Option.map_eq_some_iff.mp passed with ⟨changed, made, rfl⟩
    exact .missing made
  next =>
    rcases Option.map_eq_some_iff.mp passed with ⟨changed, made, rfl⟩
    exact .table made
  next =>
    rcases Option.map_eq_some_iff.mp passed with ⟨changed, made, rfl⟩
    exact .series made
  next => cases passed

/-- Where a dotted key may go through something, it does what a header does. -/
theorem passes_of_passDotted {atEnd : Bool} {inner : Members → Option Members}
    {old : Option Node} {new : Node} (passed : passDotted atEnd inner old = some new) :
    Passes inner old new := by
  unfold passDotted at passed
  split at passed
  next =>
    rcases Option.map_eq_some_iff.mp passed with ⟨changed, made, rfl⟩
    exact .missing made
  next => exact passes_of_passHeader passed
  next =>
    split at passed
    · cases passed
    · exact passes_of_passHeader passed
  next => cases passed
  next =>
    split at passed
    · cases passed
    · exact passes_of_passHeader passed
  next => cases passed

theorem Passes.fits {inner : Members → Option Members} {old : Option Node} {new : Node}
    (keeps : Keeps inner) (passes : Passes inner old new) (fits : ∀ node ∈ old, node.toToml.Fits) :
    new.toToml.Fits := by
  cases passes with
  | missing made => exact fits_node_table_iff.mpr (keeps _ _ fit_nil made)
  | table made =>
      exact fits_node_table_iff.mpr (keeps _ _ (fits_node_table_iff.mp (fits _ rfl)) made)
  | series made =>
      rcases fits_series_iff.mp (fits _ rfl) with ⟨before, open'⟩
      exact fits_series_iff.mpr ⟨before, keeps _ _ open' made⟩

theorem keepsNode_passHeader {inner : Members → Option Members} (keeps : Keeps inner) :
    KeepsNode (passHeader inner) :=
  fun _ _ fits passed => (passes_of_passHeader passed).fits keeps fits

theorem keeps_within (names : List String) {inner : Members → Option Members}
    (keeps : Keeps inner) : Keeps (within names inner) := by
  induction names with
  | nil => exact keeps
  | cons name names ih => exact keeps_change name (keepsNode_passHeader ih)

/-- A member that comes last fits if its value does. -/
theorem Fit.append {members : Members} {name : String} {node : Node} (fit : members.Fit)
    (fits : node.toToml.Fits) : Members.Fit (members ++ [(name, node)]) := by
  intro member among
  rcases List.mem_append.mp among with among | among
  · exact fit member among
  · rw [List.mem_singleton.mp among]
    exact fits

theorem keeps_beginTable (name : String) : Keeps (beginTable name) := by
  intro members changed fit made
  unfold beginTable at made
  split at made
  next =>
    cases made
    exact fit.append (fits_node_table_iff.mpr fit_nil)
  next inner found =>
    cases made
    have kept : Members.Fit (members.without name) := fun member among =>
      fit member (List.mem_filter.mp among).1
    have inside : Members.Fit inner :=
      fits_node_table_iff.mp (fit _ (mem_of_lookup_eq_some found))
    exact kept.append (fits_node_table_iff.mpr inside)
  next => cases made

theorem keeps_beginItem (name : String) : Keeps (beginItem name) := by
  refine keeps_change name ?_
  intro old new fits made
  cases old with
  | none =>
      cases made
      exact fits_series_iff.mpr ⟨nofun, fit_nil⟩
  | some node =>
      cases node with
      | series earlier last =>
          cases made
          rcases fits_series_iff.mp (fits _ rfl) with ⟨before, open'⟩
          refine fits_series_iff.mpr ⟨fun item among => ?_, fit_nil⟩
          rcases List.mem_append.mp among with among | among
          · exact before item among
          · rw [List.mem_singleton.mp among]
            exact fits_table_iff.mpr open'
      | value | table => cases made

theorem keeps_put (name : String) {value : Toml} (fits : value.Fits) : Keeps (put name value) := by
  intro members changed fit made
  unfold put at made
  split at made
  · cases made
    exact fit.append fits
  · cases made

theorem keepsNode_passDotted (atEnd : Bool) {inner : Members → Option Members}
    (keeps : Keeps inner) : KeepsNode (passDotted atEnd inner) :=
  fun _ _ fits passed => (passes_of_passDotted passed).fits keeps fits

theorem keeps_assign (parents : List String) (name : String) {value : Toml} (fits : value.Fits) :
    Keeps (assign parents name value) := by
  induction parents with
  | nil => exact keeps_put name fits
  | cons parent parents ih => exact keeps_change parent (keepsNode_passDotted _ ih)

end Members

/-- The entries of a table fit if their values do. -/
theorem Members.fit_of_ofEntries? {entries : List (Path × Toml)} {members : Members}
    (fits : ∀ entry ∈ entries, entry.2.Fits) (made : Members.ofEntries? entries = some members) :
    Members.Fit members :=
  kept_of_foldlM (m := Option) (fun entry among => keeps_assign _ _ (fits entry among)) fit_nil
    made

/-- The value of a statement fits, if it has one. -/
def Statement.Fits : Statement → Prop
  | .table _ | .item _ => True
  | .entry _ value => value.Fits

theorem Draft.fit_of_perform {draft next : Draft} {statement : Statement} (fits : statement.Fits)
    (fit : draft.members.Fit) (performed : draft.perform statement = some next) :
    next.members.Fit := by
  -- Every statement changes the table at the end of some way.
  have keeps {names : List String} {inner : Members → Option Members} {changed : Members}
      (inside : Keeps inner) (made : draft.members.within names inner = some changed) :
      changed.Fit :=
    Members.keeps_within names inside draft.members changed fit made
  cases statement with
  | table path =>
      rcases Option.bind_eq_some_iff.mp performed with ⟨changed, made, same⟩
      cases same
      exact keeps (Members.keeps_beginTable path.name) made
  | item path =>
      rcases Option.bind_eq_some_iff.mp performed with ⟨changed, made, same⟩
      cases same
      exact keeps (Members.keeps_beginItem path.name) made
  | entry path value =>
      rcases Option.bind_eq_some_iff.mp performed with ⟨changed, made, same⟩
      cases same
      exact keeps (Members.keeps_assign path.parents path.name fits) made

/-- What statements make up fits if their values do. -/
theorem fits_of_ofStatements? {statements : List Statement} {members : List (String × Toml)}
    (fits : ∀ statement ∈ statements, statement.Fits)
    (made : ofStatements? statements = some members) : ∀ member ∈ members, member.2.Fits := by
  rcases Option.bind_eq_some_iff.mp made with ⟨draft, performed, same⟩
  cases same
  have keeps : ∀ statement ∈ statements, ∀ draft next : Draft, draft.members.Fit →
      MonadAttach.CanReturn (draft.perform statement) next → next.members.Fit :=
    fun statement among _ _ => Draft.fit_of_perform (fits statement among)
  have fit : draft.members.Fit := kept_of_foldlM (m := Option) keeps Members.fit_nil performed
  exact Members.fit_iff.mp fit

/-! ## Readers -/

theorem fits_of_word? {number word : Int} (read : word? number = some word) :
    Fits (.integer word) := by
  unfold word? at read
  split at read
  next within =>
    cases read
    exact .integer within
  next => cases read

theorem fits_of_basedInteger? {base : Nat} {token : List Char} {word : Int}
    (read : basedInteger? base token = some word) : Fits (.integer word) := by
  rcases Option.bind_eq_some_iff.mp read with ⟨digits, -, read⟩
  exact fits_of_word? read

/-- A whole number that is read fits. -/
theorem fits_of_integer? {token : List Char} {word : Int} (read : integer? token = some word) :
    Fits (.integer word) := by
  unfold integer? at read
  split at read
  · exact fits_of_basedInteger? read
  · exact fits_of_basedInteger? read
  · exact fits_of_basedInteger? read
  · rcases Option.bind_eq_some_iff.mp read with ⟨digits, -, read⟩
    exact fits_of_word? read

/-- What a value can be that is neither a string nor has parts. -/
inductive Scalar : Toml → Prop where
  | integer {value : Int} (fits : Fits (.integer value)) : Scalar (.integer value)
  | real (value : Float) : Scalar (.real value)
  | boolean (value : Bool) : Scalar (.boolean value)
  | moment (text : String) : Scalar (.moment text)

theorem Scalar.fits {value : Toml} (scalar : Scalar value) : value.Fits := by
  cases scalar with
  | integer fits => exact fits
  | real value => exact .real value
  | boolean value => exact .boolean value
  | moment text => exact .moment text

theorem scalar_of_scalar? {token : List Char} {value : Toml} (read : scalar? token = some value) :
    Scalar value := by
  unfold scalar? at read
  split at read
  · cases read
    exact .boolean true
  split at read
  · cases read
    exact .boolean false
  split at read
  · cases read
    exact .moment _
  split at read
  next number found =>
    cases read
    exact .integer (fits_of_integer? found)
  next =>
    rcases Option.map_eq_some_iff.mp read with ⟨number, -, rfl⟩
    exact .real number

theorem scalar_of_readScalar {text rest : List Char} {value : Toml}
    (read : readScalar text = some (value, rest)) : Scalar value := by
  unfold readScalar at read
  dsimp only at read
  split at read
  · split at read
    · cases read
      exact .moment _
    · cases read
  · rcases Option.map_eq_some_iff.mp read with ⟨found, scalar, same⟩
    cases same
    exact scalar_of_scalar? scalar

theorem fits_inherited : Inherited Fits where
  string := .string
  scalar read := (scalar_of_readScalar read).fits
  array := .array
  table fits made := fits_table_iff.mpr (Members.fit_of_ofEntries? fits made)

theorem fits_of_readStatements {lines : Nat} {text : List Char} {statements : List Statement}
    (read : readStatements lines text = some statements) :
    ∀ statement ∈ statements, statement.Fits := by
  intro statement among
  cases statement with
  | table | item => trivial
  | entry path value => exact fits_inherited.of_readStatements read path value among

/-- Everything that a document holds fits. -/
theorem fits_of_parse {text : String} {members : List (String × Toml)}
    (parsed : parse text = some members) : ∀ member ∈ members, member.2.Fits := by
  rcases Option.bind_eq_some_iff.mp parsed with ⟨statements, read, made⟩
  exact fits_of_ofStatements? (fits_of_readStatements read) made

end LineTally.Toml
