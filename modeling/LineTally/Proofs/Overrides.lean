import LineTally.Proofs.Settings
import LineTally.Proofs.Toml.Ways

/-!
# A document overrides exactly what it names

Every setting has its place in a document: a section, and a name in it.  If the document says
something there, this is what is set, and otherwise the default stays; nothing else that the
document holds matters, and neither do its order and the forms in which tables are written.  A value
of the wrong type in the place of a setting is refused.

A member of a section changes the one setting that it names and is refused exactly if its type is
wrong; since every name stands once, this goes over to a section, and from there to a document.
-/

namespace LineTally.Settings

/-! ## The places of the settings -/

/-- A setting that a document can name. -/
inductive Key where
  | capacity
  | workers
  | ignoreCase
  | format
  | showWorkers
  deriving DecidableEq, Repr

namespace Key

/-- The section in which a setting stands. -/
def group : Key → Section
  | capacity => queueSection
  | workers | ignoreCase => workersSection
  | format | showWorkers => outputSection

/-- The name of a setting in its section. -/
def name : Key → String
  | capacity => "capacity"
  | workers => "count"
  | ignoreCase => "ignore_case"
  | format => "format"
  | showWorkers => "show_workers"

/-- The way to a setting in a document. -/
def way (key : Key) : List String :=
  [key.group.name, key.name]

/-- The value by which a document asks for what is set. -/
def value (settings : Settings) : Key → Toml
  | capacity => .integer settings.capacity.toNat
  | workers => .integer settings.workers.toNat
  | ignoreCase => .boolean settings.ignoreCase
  | format => .string settings.format
  | showWorkers => .boolean settings.showWorkers

/-- A value has the type of a setting: counts are not negative. -/
def Accepts : Key → Toml → Prop
  | capacity, .integer number | workers, .integer number => 0 ≤ number
  | ignoreCase, .boolean _ | showWorkers, .boolean _ => True
  | format, .string _ => True
  | _, _ => False

instance (key : Key) : DecidablePred key.Accepts := fun value => by
  unfold Accepts
  split <;> infer_instance

instance {p : Key → Prop} [DecidablePred p] : Decidable (∀ key, p key) :=
  decidable_of_iff
    (p capacity ∧ p workers ∧ p ignoreCase ∧ p format ∧ p showWorkers)
    ⟨fun ⟨one, two, three, four, five⟩ key => by cases key <;> assumption,
      fun each => ⟨each _, each _, each _, each _, each _⟩⟩

/-- What a document says of a setting. -/
def said (key : Key) (members : List (String × Toml)) : Option Toml :=
  (Toml.table members).at? key.way

theorem accepts_value (settings : Settings) (key : Key) : key.Accepts (key.value settings) := by
  cases key with
  | capacity | workers => exact Int.natCast_nonneg _
  | ignoreCase | format | showWorkers => trivial

theorem isLeaf_of_accepts {key : Key} {value : Toml} (accepts : key.Accepts value) :
    value.IsLeaf := by
  cases value with
  | array | table => cases key <;> exact accepts.elim
  | string | integer | real | boolean | moment => trivial

theorem group_mem (key : Key) : key.group ∈ sections := by
  cases key <;> simp [group, sections]

/-- Settings are told apart by the values that ask for them. -/
theorem ext_value {first second : Settings}
    (same : ∀ key : Key, key.value first = key.value second) : first = second := by
  rcases first with ⟨capacity, workers, ignoreCase, format, showWorkers⟩
  have counts {left right : Count}
      (same : Toml.integer left.toNat = Toml.integer right.toNat) : left = right :=
    Count.ext (Int.ofNat.inj (Toml.integer.inj same))
  have capacity' := counts (same .capacity)
  have workers' := counts (same .workers)
  have ignoreCase' := Toml.boolean.inj (same .ignoreCase)
  have format' := Toml.string.inj (same .format)
  have showWorkers' := Toml.boolean.inj (same .showWorkers)
  subst capacity' workers' ignoreCase' format' showWorkers'
  rfl

end Key

/-! ## A member of a section -/

theorem boolean_of_toBool {value : Toml} {boolean : Bool}
    (read : value.shape.toBool = .ok boolean) : value = .boolean boolean := by
  cases value with
  | boolean => cases read; rfl
  | string | integer | real | moment | array | table => cases read

theorem string_of_toText {value : Toml} {text : String}
    (read : value.shape.toText = .ok text) : value = .string text := by
  cases value with
  | string => cases read; rfl
  | boolean | integer | real | moment | array | table => cases read

/-- The member that names a setting changes it to its value, and no other setting. -/
theorem Key.value_of_set {key : Key} {before after : Settings} {value : Toml}
    (made : key.group.set before (key.name, value) = .ok after) (other : Key) :
    other.value after = if other = key then value else other.value before := by
  cases key with
  | capacity | workers =>
      rcases except_map_eq_ok (show (_ <$> value.shape.toCount "usize" : Except _ _) = _ from made)
        with ⟨count, read, rfl⟩
      rw [integer_of_toCount read]
      cases other <;> rfl
  | ignoreCase | showWorkers =>
      rcases except_map_eq_ok (show (_ <$> value.shape.toBool : Except _ _) = _ from made)
        with ⟨boolean, read, rfl⟩
      rw [boolean_of_toBool read]
      cases other <;> rfl
  | format =>
      rcases except_map_eq_ok (show (_ <$> value.shape.toText : Except _ _) = _ from made)
        with ⟨text, read, rfl⟩
      rw [string_of_toText read]
      cases other <;> rfl

theorem Key.accepts_of_set {key : Key} {before after : Settings} {value : Toml}
    (made : key.group.set before (key.name, value) = .ok after) : key.Accepts value := by
  have same := value_of_set made key
  rw [if_pos rfl] at same
  rw [← same]
  exact key.accepts_value after

theorem count_of_fits {number : Int} (fits : Toml.Fits (.integer number)) (positive : 0 ≤ number) :
    ∃ count : Count, (count.toNat : Int) = number := by
  rcases Int.eq_ofNat_of_zero_le positive with ⟨natural, rfl⟩
  cases fits with
  | integer within =>
      have small : natural < 2 ^ 63 := Int.ofNat_lt.mp within.2
      exact ⟨⟨natural, Nat.lt_trans small (by decide)⟩, rfl⟩

/-- A value of the right type is not refused. -/
theorem Key.ok_of_accepts {key : Key} {value : Toml} (fits : value.Fits)
    (accepts : key.Accepts value) (before : Settings) :
    ∃ after, key.group.set before (key.name, value) = .ok after := by
  cases key with
  | capacity =>
      cases value with
      | integer number =>
          rcases count_of_fits fits accepts with ⟨count, rfl⟩
          exact ⟨_, setCount_integer (fun settings capacity => { settings with capacity }) before
            count⟩
      | string | real | boolean | moment | array | table => exact accepts.elim
  | workers =>
      cases value with
      | integer number =>
          rcases count_of_fits fits accepts with ⟨count, rfl⟩
          exact ⟨_, setCount_integer (fun settings workers => { settings with workers }) before
            count⟩
      | string | real | boolean | moment | array | table => exact accepts.elim
  | ignoreCase | showWorkers =>
      cases value with
      | boolean => exact ⟨_, rfl⟩
      | string | integer | real | moment | array | table => exact accepts.elim
  | format =>
      cases value with
      | string => exact ⟨_, rfl⟩
      | boolean | integer | real | moment | array | table => exact accepts.elim

theorem key_of_mem {group : Section} (listed : group ∈ sections) {name : String}
    (among : name ∈ group.setters.map Prod.fst) :
    ∃ key : Key, key.group = group ∧ key.name = name := by
  simp only [sections, List.mem_cons, List.not_mem_nil, or_false] at listed
  rcases listed with rfl | rfl | rfl
  · change name ∈ ["capacity"] at among
    rw [List.mem_singleton.mp among]
    exact ⟨.capacity, rfl, rfl⟩
  · change name ∈ ["count", "ignore_case"] at among
    simp only [List.mem_cons, List.not_mem_nil, or_false] at among
    rcases among with rfl | rfl
    · exact ⟨.workers, rfl, rfl⟩
    · exact ⟨.ignoreCase, rfl, rfl⟩
  · change name ∈ ["format", "show_workers"] at among
    simp only [List.mem_cons, List.not_mem_nil, or_false] at among
    rcases among with rfl | rfl
    · exact ⟨.format, rfl, rfl⟩
    · exact ⟨.showWorkers, rfl, rfl⟩

/-- A member of a section names a setting, or it does not matter. -/
theorem key_or_ok {group : Section} (listed : group ∈ sections) (member : String × Toml) :
    (∃ key : Key, key.group = group ∧ key.name = member.1) ∨
      ∀ before, group.set before member = .ok before := by
  by_cases among : member.1 ∈ group.setters.map Prod.fst
  · exact .inl (key_of_mem listed among)
  · refine .inr fun before => ?_
    rw [Section.set, Toml.lookup_eq_none_iff.mpr among]

/-- A member of another name, or of another section, leaves a setting alone. -/
theorem Key.value_of_set_other {key : Key} {group : Section} (listed : group ∈ sections)
    {before after : Settings} {member : String × Toml}
    (other : key.group.name = group.name → key.name ≠ member.1)
    (made : group.set before member = .ok after) : key.value after = key.value before := by
  rcases key_or_ok listed member with ⟨named, rfl, same⟩ | ignored
  · rcases member with ⟨name, value⟩
    change named.name = name at same
    subst same
    rw [value_of_set made key, if_neg]
    rintro rfl
    exact other rfl rfl
  · rw [ignored before] at made
    cases made
    rfl

/-! ## Members one by one -/

/-- If one name decides what a setting becomes, and stands once, it is what is found there, or what
it was before. -/
theorem value_of_foldlM {step : Settings → String × Toml → Except Mismatch Settings} {key : Key}
    {name : String} {rest : List String} {items : List (String × Toml)}
    (own : ∀ value, (name, value) ∈ items → ∀ state next, step state (name, value) = .ok next →
      key.value next = (value.at? rest).getD (key.value state))
    (other : ∀ item ∈ items, item.1 ≠ name → ∀ state next, step state item = .ok next →
      key.value next = key.value state)
    (once : (items.map Prod.fst).Nodup) :
    ∀ {first last : Settings}, items.foldlM step first = .ok last →
      key.value last = ((Toml.table items).at? (name :: rest)).getD (key.value first) := by
  induction items with
  | nil =>
      intro first last ran
      cases ran
      rfl
  | cons item items ih =>
      intro first last ran
      rcases item with ⟨held, value⟩
      rcases foldlM_cons_eq_ok.mp ran with ⟨next, stepped, ran⟩
      rw [List.map_cons, List.nodup_cons] at once
      have later := ih (fun value among => own value (List.mem_cons_of_mem _ among))
        (fun item among => other item (List.mem_cons_of_mem _ among)) once.2 ran
      rw [Toml.at?] at later ⊢
      by_cases same : held = name
      · subst same
        rw [Toml.lookup_eq_none_iff.mpr once.1] at later
        rw [List.lookup_cons_self]
        exact later.trans (own value List.mem_cons_self first next stepped)
      · rw [List.lookup_cons, beq_false_of_ne (Ne.symm same), later,
          other _ List.mem_cons_self same first next stepped]

/-! ## Sections and documents -/

/-- Where a document has a section, it is a table. -/
def Sectioned (members : List (String × Toml)) : Prop :=
  ∀ group ∈ sections, ∀ value ∈ members.lookup group.name, ∃ inner, value = .table inner

instance (value : Toml) : Decidable (∃ inner, value = .table inner) :=
  match value with
  | .table inner => isTrue ⟨inner, rfl⟩
  | .string _ | .integer _ | .real _ | .boolean _ | .moment _ | .array _ => isFalse nofun

instance (members : List (String × Toml)) : Decidable (Sectioned members) :=
  inferInstanceAs (Decidable (∀ group ∈ sections, ∀ value ∈ members.lookup group.name, _))

/-- Whatever a document says of settings has the right type. -/
def WellTyped (members : List (String × Toml)) : Prop :=
  ∀ key : Key, ∀ value ∈ key.said members, key.Accepts value

instance (members : List (String × Toml)) : Decidable (WellTyped members) :=
  inferInstanceAs (Decidable (∀ key : Key, ∀ value ∈ key.said members, key.Accepts value))

theorem Key.said_eq_some_iff {key : Key} {members : List (String × Toml)} {value : Toml} :
    key.said members = some value ↔ ∃ inner,
      members.lookup key.group.name = some (.table inner) ∧ inner.lookup key.name = some value := by
  rw [said, way, Toml.at?, Option.bind_eq_some_iff]
  constructor
  · rintro ⟨found, held, ends⟩
    cases found with
    | table inner =>
        rcases Option.bind_eq_some_iff.mp ends with ⟨last, named, same⟩
        rw [Toml.at?_nil] at same
        cases same
        exact ⟨inner, held, named⟩
    | string | integer | real | boolean | moment | array => cases ends
  · rintro ⟨inner, held, named⟩
    refine ⟨_, held, ?_⟩
    rw [Toml.at?, named]
    exact Toml.at?_nil value

section Members

variable {key : Key} {members inner : List (String × Toml)} {base before after : Settings}

theorem Key.value_of_apply (once : (inner.map Prod.fst).Nodup)
    (applied : key.group.apply before (.table inner) = .ok after) :
    key.value after = ((Toml.table inner).at? [key.name]).getD (key.value before) := by
  refine value_of_foldlM (fun value _ state next made => ?_)
    (fun member _ other state next made => ?_) once applied
  · rw [value_of_set made key, if_pos rfl, Toml.at?_nil, Option.getD_some]
  · exact value_of_set_other key.group_mem (fun _ => other.symm) made

theorem Key.value_of_apply_other {group : Section} (listed : group ∈ sections)
    (apart : key.group.name ≠ group.name)
    (applied : group.apply before (.table inner) = .ok after) :
    key.value after = key.value before := by
  have keeps : ∀ member ∈ inner, ∀ state next, key.value state = key.value before →
      group.set state member = .ok next → key.value next = key.value before :=
    fun member _ state next kept made =>
      (value_of_set_other listed (absurd · apart) made).trans kept
  exact kept_of_foldlM (m := Except Mismatch) keeps rfl applied

theorem override_key (key : Key) (before : Settings) (value : Toml) :
    override before (key.group.name, value) = key.group.apply before value := by
  cases key <;> rfl

/-- A member of a document is a section, or it does not matter. -/
theorem section_or_ok (member : String × Toml) :
    (∃ group ∈ sections, group.name = member.1 ∧
      ∀ before, override before member = group.apply before member.2) ∨
      ∀ before, override before member = .ok before := by
  cases found : sections.find? (·.name = member.1) with
  | none => exact .inr fun before => by rw [override, found]
  | some group =>
      refine .inl ⟨group, List.mem_of_find?_eq_some found, ?_, fun before => ?_⟩
      · have named := List.find?_some found
        exact of_decide_eq_true named
      · rw [override, found]

/-- What a setting becomes is what the document says of it, or what it was before. -/
theorem Key.value_of_ofTable (sectioned : Sectioned members)
    (once : Toml.NamesOnce (.table members)) (made : ofTable base members = .ok after) :
    key.value after = (key.said members).getD (key.value base) := by
  refine value_of_foldlM (fun value among state next applied => ?_)
    (fun member among other state next applied => ?_) once.nodup made
  · have held := Toml.lookup_of_mem once.nodup among
    rcases sectioned key.group key.group_mem value held with ⟨inner, rfl⟩
    rw [override_key] at applied
    exact value_of_apply (once.lookup held).nodup applied
  · rcases section_or_ok member with ⟨group, listed, same, applies⟩ | ignored
    · rcases member with ⟨name, value⟩
      change group.name = name at same
      subst same
      rcases sectioned group listed value (Toml.lookup_of_mem once.nodup among) with ⟨inner, rfl⟩
      rw [applies] at applied
      exact value_of_apply_other listed (Ne.symm other) applied
    · rw [ignored state] at applied
      cases applied
      rfl

/-- If all that a document says of settings has the right type, nothing is refused. -/
theorem ok_of_wellTyped (sectioned : Sectioned members) (once : Toml.NamesOnce (.table members))
    (fits : ∀ member ∈ members, Toml.Fits member.2) (typed : WellTyped members)
    (base : Settings) : ∃ settings, ofTable base members = .ok settings := by
  refine ok_of_foldlM (fun member among state => ?_) base
  rcases section_or_ok member with ⟨group, listed, same, applies⟩ | ignored
  · rcases member with ⟨name, value⟩
    change group.name = name at same
    subst same
    have held := Toml.lookup_of_mem once.nodup among
    rcases sectioned group listed value held with ⟨inner, rfl⟩
    rw [applies]
    refine ok_of_foldlM (fun member inside state => ?_) state
    rcases key_or_ok listed member with ⟨key, rfl, same⟩ | ignored
    · rcases member with ⟨name, value⟩
      change key.name = name at same
      subst same
      have named := Toml.lookup_of_mem (once.lookup held).nodup inside
      have fit : value.Fits := by
        cases fits _ among with
        | table each => exact each _ inside
      exact key.ok_of_accepts fit (typed key value (Key.said_eq_some_iff.mpr ⟨inner, held, named⟩))
        state
    · exact ⟨state, ignored state⟩
  · exact ⟨state, ignored state⟩

/-- A value of the wrong type in the place of a setting is refused, whatever else there is. -/
theorem error_of_not_accepts {value : Toml} (said : key.said members = some value)
    (refused : ¬ key.Accepts value) (base : Settings) :
    ∃ found, ofTable base members = .error found := by
  rcases Key.said_eq_some_iff.mp said with ⟨inner, held, named⟩
  cases outcome : ofTable base members with
  | error found => exact ⟨found, rfl⟩
  | ok settings =>
      rcases step_of_foldlM outcome _ (Toml.mem_of_lookup_eq_some held) with ⟨_, _, applied⟩
      rw [override_key] at applied
      rcases step_of_foldlM applied _ (Toml.mem_of_lookup_eq_some named) with ⟨_, _, made⟩
      exact absurd (Key.accepts_of_set made) refused

end Members

/-! ## Files -/

/-- A file that holds a text. -/
def textFile (text : String) : Option FileNode :=
  some (.file (Text.Utf8.encode text))

theorem ofFile_textFile {text : String} {members : List (String × Toml)}
    (parsed : Toml.parse text = some members) (base : Settings) :
    ofFile base (textFile text) = (ofTable base members).mapError .mismatch := by
  rw [ofFile, textFile, readText_encode]
  simp only [ofText, parsed]

/-- A text is a document with some statements and members, its sections are tables, and what it
says of settings has the right types. -/
structure Proper (text : String) (statements : List Toml.Statement)
    (members : List (String × Toml)) : Prop where
  read : Toml.statements? text = some statements
  made : Toml.ofStatements? statements = some members
  sectioned : Sectioned members
  typed : WellTyped members

theorem exists_proper {text : String} {members : List (String × Toml)}
    (parsed : Toml.parse text = some members) (sectioned : Sectioned members)
    (typed : WellTyped members) : ∃ statements, Proper text statements members := by
  rcases Option.bind_eq_some_iff.mp parsed with ⟨statements, read, made⟩
  exact ⟨statements, read, made, sectioned, typed⟩

namespace Proper

variable {text : String} {statements : List Toml.Statement} {members : List (String × Toml)}
  (proper : Proper text statements members)
include proper

theorem parsed : Toml.parse text = some members := by
  rw [Toml.parse_eq_bind, proper.read]
  exact proper.made

theorem passable (key : Key) : (Toml.table members).Passable key.way := by
  intro value held
  rcases proper.sectioned key.group key.group_mem value held with ⟨inner, rfl⟩
  exact fun found _ => Toml.passable_nil found

/-- A document says of a setting what its statements name there. -/
theorem said_iff_names {key : Key} {value : Toml} (accepts : key.Accepts value) :
    key.said members = some value ↔ Toml.Names [] statements key.way value :=
  Toml.at?_eq_some_iff_names proper.read proper.made (Key.isLeaf_of_accepts accepts)
    (proper.passable key)

theorem loads (base : Settings) : ∃ settings, ofFile base (textFile text) = .ok settings ∧
    ∀ key : Key, key.value settings = (key.said members).getD (key.value base) := by
  have once := Toml.namesOnce_of_parse proper.parsed
  rcases ok_of_wellTyped proper.sectioned once (Toml.fits_of_parse proper.parsed) proper.typed base
    with ⟨settings, made⟩
  refine ⟨settings, ?_, fun key => key.value_of_ofTable proper.sectioned once made⟩
  rw [ofFile_textFile proper.parsed, made]
  rfl

end Proper

/-- Two documents whose statements name the same for every setting say the same of it. -/
theorem said_eq_of_names {first second : String} {statements others : List Toml.Statement}
    {members changed : List (String × Toml)} (one : Proper first statements members)
    (two : Proper second others changed) {key : Key}
    (same : ∀ value, key.Accepts value →
      (Toml.Names [] statements key.way value ↔ Toml.Names [] others key.way value)) :
    key.said members = key.said changed := by
  refine Option.ext fun value => ?_
  constructor
  · intro said
    have accepts := one.typed key value said
    exact (two.said_iff_names accepts).mpr ((same value accepts).mp
      ((one.said_iff_names accepts).mp said))
  · intro said
    have accepts := two.typed key value said
    exact (one.said_iff_names accepts).mpr ((same value accepts).mpr
      ((two.said_iff_names accepts).mp said))

/-- A document is loaded if its sections are tables and what it says of settings has the right
types; every setting is then what the document says of it, or else the default.  Of its statements
only those matter that name a setting, in whatever order and form: two documents that name the same
values for settings load alike.  A value of the wrong type in the place of a setting is refused. -/
theorem documents_override_what_they_name (workers : Count) :
    (∀ text statements members, Proper text statements members →
      ∃ settings, ofFile (defaults workers) (textFile text) = .ok settings ∧
        ∀ key : Key, key.value settings = (key.said members).getD (key.value (defaults workers)) ∧
          ∀ value, key.Accepts value →
            (key.said members = some value ↔ Toml.Names [] statements key.way value)) ∧
    (∀ first statements members second others changed,
      Proper first statements members → Proper second others changed →
      (∀ (key : Key) (value : Toml), key.Accepts value →
        (Toml.Names [] statements key.way value ↔ Toml.Names [] others key.way value)) →
      ofFile (defaults workers) (textFile first) = ofFile (defaults workers) (textFile second)) ∧
    ∀ text members, Toml.parse text = some members →
      ∀ (key : Key) (value : Toml), key.said members = some value → ¬ key.Accepts value →
        ∃ found, ofFile (defaults workers) (textFile text) = .error (.mismatch found) := by
  refine ⟨fun text statements members proper => ?_, ?_, ?_⟩
  · rcases proper.loads (defaults workers) with ⟨settings, loaded, values⟩
    exact ⟨settings, loaded, fun key =>
      ⟨values key, fun value accepts => proper.said_iff_names accepts⟩⟩
  · intro first statements members second others changed one two same
    rcases one.loads (defaults workers) with ⟨settings, loaded, values⟩
    rcases two.loads (defaults workers) with ⟨settings', loaded', values'⟩
    have alike : settings = settings' := Key.ext_value fun key => by
      rw [values, values', said_eq_of_names one two (same key)]
    rw [loaded, loaded', alike]
  · intro text members parsed key value said refused
    rcases error_of_not_accepts said refused (defaults workers) with ⟨found, outcome⟩
    refine ⟨found, ?_⟩
    rw [ofFile_textFile parsed, outcome]
    rfl

instance (found : Option Toml) (number : Int) : Decidable (found = some (.integer number)) :=
  match found with
  | some (.integer other) => decidable_of_iff (other = number) (by simp)
  | none | some (.string _) | some (.real _) | some (.boolean _) | some (.moment _)
  | some (.array _) | some (.table _) => isFalse nofun

instance (found : Option Toml) (value : Bool) : Decidable (found = some (.boolean value)) :=
  match found with
  | some (.boolean other) => decidable_of_iff (other = value) (by simp)
  | none | some (.string _) | some (.integer _) | some (.real _) | some (.moment _)
  | some (.array _) | some (.table _) => isFalse nofun

/-- Two documents name a capacity and that workers are not shown, one below headers among much that
no setting is named by, the other in the opposite order, in a table within a line and by a dotted
key; they load alike, and all else stays as it was.  A third names a negative number of workers. -/
theorem documents_override_what_they_name_of_forms :
    let headers := "unknown = 1979-05-27\n[output]\ncolor = [\"red\", \x7bcount = -1\x7d]\n" ++
      "show_workers = false\n[output.extra]\nformat = 5\n[[more]]\n[queue]\ncapacity = 7\n"
    let keys := "queue = \x7bcapacity = 7\x7d\noutput.show_workers = false\n"
    let base := defaults ⟨2, by decide⟩
    ofFile base (textFile headers) =
        .ok { base with capacity := ⟨7, by decide⟩, showWorkers := false } ∧
      ofFile base (textFile keys) = ofFile base (textFile headers) ∧
      ∃ found, ofFile base (textFile "[workers]\ncount = -1\n") = .error (.mismatch found) := by
  intro headers keys base
  rcases documents_override_what_they_name ⟨2, by decide⟩ with ⟨loads, alike, refuses⟩
  have told : ∀ text ∈ [headers, keys], ∃ members ∈ Toml.parse text,
      Sectioned members ∧ WellTyped members ∧
        Key.capacity.said members = some (.integer 7) ∧ Key.workers.said members = none ∧
        Key.ignoreCase.said members = none ∧ Key.format.said members = none ∧
        Key.showWorkers.said members = some (.boolean false) := by
    decide +kernel
  have refused : ∃ members ∈ Toml.parse "[workers]\ncount = -1\n",
      Key.workers.said members = some (.integer (-1)) := by
    decide +kernel
  rcases told headers (by simp) with
    ⟨members, parsed, sectioned, typed, capacity, workers, ignoreCase, format, showWorkers⟩
  rcases told keys (by simp) with
    ⟨others, parsed', sectioned', typed', capacity', workers', ignoreCase', format', showWorkers'⟩
  rcases exists_proper parsed sectioned typed with ⟨statements, one⟩
  rcases exists_proper parsed' sectioned' typed' with ⟨statements', two⟩
  rcases loads headers statements members one with ⟨settings, loaded, values⟩
  refine ⟨?_, ?_, ?_⟩
  · rw [loaded]
    refine congrArg Except.ok (Key.ext_value fun key => (values key).1.trans ?_)
    cases key with
    | capacity => rw [capacity]; rfl
    | workers => rw [workers]; rfl
    | ignoreCase => rw [ignoreCase]; rfl
    | format => rw [format]; rfl
    | showWorkers => rw [showWorkers]; rfl
  · refine alike keys statements' others headers statements members two one ?_
    intro key value accepts
    rw [← one.said_iff_names accepts, ← two.said_iff_names accepts]
    cases key with
    | capacity => rw [capacity, capacity']
    | workers => rw [workers, workers']
    | ignoreCase => rw [ignoreCase, ignoreCase']
    | format => rw [format, format']
    | showWorkers => rw [showWorkers, showWorkers']
  · rcases refused with ⟨members, parsed, said⟩
    exact refuses _ members parsed .workers _ said (by decide)

end LineTally.Settings
