import LineTally.Command.Run
import LineTally.Proofs.Folds
import LineTally.Proofs.Text.Utf8
import LineTally.Proofs.Toml.Documents
import LineTally.Proofs.Toml.Fits
import Mathlib.Control.Monad.Basic

/-!
# Settings survive being shown

The settings are shown as a document that asks for them.  All of them come back from it, whatever the
defaults are: no setting is left out, every number that was read from a document can be read again,
and the form of a text is chosen so that it is read back, whatever its characters are.
-/

namespace LineTally.Settings

/-! ## Settings that documents ask for -/

/-- The numbers among the settings fit 64 bits with a sign, as those of a document do. -/
structure Writable (settings : Settings) : Prop where
  capacity : settings.capacity.toNat < 2 ^ 63
  workers : settings.workers.toNat < 2 ^ 63

/-- A machine that has threads has some workers, and no more than are usual. -/
theorem usualWorkers_within {threads : Option Count} (some : ∀ number ∈ threads, 0 < number.toNat) :
    0 < (usualWorkers threads).toNat ∧ (usualWorkers threads).toNat ≤ mostWorkers.toNat := by
  cases threads with
  | none => decide
  | some number =>
      have positive : 0 < number.toNat := some number rfl
      rw [usualWorkers]
      split
      next few => exact ⟨positive, few⟩
      next => decide

/-- Whatever machine they are for, the defaults can be written, and no plan with them is refused but
for an empty term. -/
theorem defaults_usualWorkers {threads : Option Count}
    (some : ∀ number ∈ threads, 0 < number.toNat) :
    (defaults (usualWorkers threads)).Writable ∧ ∀ term : String, term.isEmpty = false →
      ((defaults (usualWorkers threads)).plan term).check = .ok () := by
  rcases usualWorkers_within some with ⟨positive, few⟩
  constructor
  · have word : mostWorkers.toNat < 2 ^ 63 := by decide
    exact ⟨show 64 < 2 ^ 63 by decide, Nat.lt_of_le_of_lt few word⟩
  · intro term given
    have workers : ((defaults (usualWorkers threads)).plan term).workers ≠ 0 :=
      Nat.ne_of_gt positive
    have room : ((defaults (usualWorkers threads)).plan term).capacity ≠ 0 :=
      show 64 ≠ 0 by decide
    rw [Scan.Plan.check, if_neg room, if_neg workers, if_neg (by simpa [plan] using given)]

theorem integer_of_toCount {value : Toml} {wanted : String} {count : Count}
    (read : value.shape.toCount wanted = .ok count) : value = .integer count.toNat := by
  cases value with
  | integer number =>
      cases number with
      | ofNat natural =>
          change Shape.toCount wanted (.integer (.ofNat natural)) = .ok count at read
          simp only [Shape.toCount] at read
          split at read
          next found same =>
            cases read
            unfold Count.ofNat? at same
            split at same <;> cases same
            rfl
          next => cases read
      | negSucc number => cases read
  | string | real | boolean | moment | array | table => cases read

theorem toNat_lt_of_toCount {value : Toml} {wanted : String} {count : Count} (fits : value.Fits)
    (read : value.shape.toCount wanted = .ok count) : count.toNat < 2 ^ 63 := by
  rw [integer_of_toCount read] at fits
  cases fits with
  | integer within => exact Int.ofNat_lt.mp within.2

/-- Changing a setting to something that fits keeps the numbers within their bounds. -/
def Setter.Keeps (set : Setter) : Prop :=
  ∀ value, Toml.Fits value → ∀ settings next : Settings, settings.Writable →
    set settings value = .ok next → next.Writable

theorem except_map_eq_ok {ε α β : Type} {change : α → β} {outcome : Except ε α} {result : β}
    (made : change <$> outcome = .ok result) :
    ∃ value, outcome = .ok value ∧ change value = result := by
  cases outcome with
  | error error => cases made
  | ok value => exact ⟨value, rfl, Except.ok.inj made⟩

theorem keeps_setCount {set : Settings → Count → Settings}
    (within : ∀ settings count, Writable settings → count.toNat < 2 ^ 63 →
      Writable (set settings count)) : Setter.Keeps (setCount set) := by
  intro value fits settings next writable made
  rcases except_map_eq_ok made with ⟨count, read, rfl⟩
  exact within settings count writable (toNat_lt_of_toCount fits read)

theorem keeps_setBool {set : Settings → Bool → Settings}
    (within : ∀ settings value, Writable settings → Writable (set settings value)) :
    Setter.Keeps (setBool set) := by
  intro value fits settings next writable made
  rcases except_map_eq_ok made with ⟨given, -, rfl⟩
  exact within settings given writable

theorem keeps_setText {set : Settings → String → Settings}
    (within : ∀ settings value, Writable settings → Writable (set settings value)) :
    Setter.Keeps (setText set) := by
  intro value fits settings next writable made
  rcases except_map_eq_ok made with ⟨given, -, rfl⟩
  exact within settings given writable

/-- Every setting in every section is kept within its bounds. -/
theorem setters_keep : ∀ group ∈ sections, ∀ setter ∈ group.setters, Setter.Keeps setter.2 := by
  intro group listed setter among
  simp only [sections, List.mem_cons, List.not_mem_nil, or_false] at listed
  rcases listed with rfl | rfl | rfl
  · rw [List.mem_singleton.mp among]
    exact keeps_setCount fun _ _ writable fits => ⟨fits, writable.workers⟩
  · simp only [workersSection, List.mem_cons, List.not_mem_nil, or_false] at among
    rcases among with rfl | rfl
    · exact keeps_setCount fun _ _ writable fits => ⟨writable.capacity, fits⟩
    · exact keeps_setBool fun _ _ writable => ⟨writable.capacity, writable.workers⟩
  · simp only [outputSection, List.mem_cons, List.not_mem_nil, or_false] at among
    rcases among with rfl | rfl
    · exact keeps_setText fun _ _ writable => ⟨writable.capacity, writable.workers⟩
    · exact keeps_setBool fun _ _ writable => ⟨writable.capacity, writable.workers⟩

section Documents

variable {settings next : Settings}

theorem writable_of_apply {group : Section} (listed : group ∈ sections) {value : Toml}
    (fits : value.Fits) (writable : settings.Writable)
    (applied : group.apply settings value = .ok next) : next.Writable := by
  have keeps := setters_keep group listed
  cases fits with
  | table each =>
      refine kept_of_foldlM (m := Except Mismatch)
        (fun member among state later kept set => ?_) writable applied
      change group.set state member = .ok later at set
      unfold Section.set at set
      split at set
      next setter found =>
        exact keeps (member.1, setter) (Toml.mem_of_lookup_eq_some found) member.2
          (each member among) state later kept set
      next =>
        cases set
        exact kept
  | array each =>
      refine kept_of_foldlM (m := Except Mismatch)
        (fun given among state later kept set => ?_) writable applied
      rcases List.of_mem_zip among with ⟨setter, item⟩
      exact keeps given.1 setter given.2 (each given.2 item) state later kept set
  | moment text =>
      cases applied
      exact writable
  | string | integer | real | boolean => cases applied

theorem writable_of_override {member : String × Toml} (fits : member.2.Fits)
    (writable : settings.Writable) (made : override settings member = .ok next) :
    next.Writable := by
  unfold override at made
  split at made
  next group found => exact writable_of_apply (List.mem_of_find?_eq_some found) fits writable made
  next =>
    cases made
    exact writable

/-- The settings that a file asks for can be written. -/
theorem writable_of_ofFile {node : Option FileNode} (writable : settings.Writable)
    (read : ofFile settings node = .ok next) : next.Writable := by
  unfold ofFile at read
  split at read
  next => cases read
  next text _ =>
    unfold ofText at read
    split at read
    next => cases read
    next members parsed =>
      unfold ofTable at read
      cases made : members.foldlM override settings with
      | error found =>
          rw [made] at read
          cases read
      | ok changed =>
          rw [made] at read
          cases read
          exact kept_of_foldlM (m := Except Mismatch) (fun member among _ _ =>
            writable_of_override (Toml.fits_of_parse parsed member among)) writable made

/-- The settings that are found can be written. -/
theorem writable_of_find (writable : settings.Writable)
    (places : List (String × Option FileNode)) : (find settings places).1.Writable := by
  induction places with
  | nil => exact writable
  | cons place places ih =>
      rw [find]
      split
      next read => exact writable_of_ofFile writable read
      next => exact ih
      next => exact ih

end Documents

/-! ## Documents that are shown -/

section Shown

variable (settings : Settings)

/-- What the document that asks for the settings holds. -/
def table : List (String × Toml) := [
  ("queue", .table [("capacity", .integer settings.capacity.toNat)]),
  ("workers", .table [
    ("count", .integer settings.workers.toNat),
    ("ignore_case", .boolean settings.ignoreCase)]),
  ("output", .table [
    ("format", .string settings.format),
    ("show_workers", .boolean settings.showWorkers)])]

theorem setCount_integer (set : Settings → Count → Settings) (base : Settings) (value : Count) :
    setCount set base (.integer value.toNat) = .ok (set base value) := by
  have read : (Toml.integer value.toNat).shape.toCount "usize" = .ok value :=
    Shape.toCount_ofNat "usize" value
  rw [setCount, read]
  rfl

theorem setBool_boolean (set : Settings → Bool → Settings) (base : Settings) (value : Bool) :
    setBool set base (.boolean value) = .ok (set base value) :=
  rfl

/-- The document that holds all settings asks for them, whatever the defaults are. -/
theorem ofTable_table (base : Settings) : ofTable base settings.table = .ok settings := by
  have queue : override base ("queue", .table [("capacity", .integer settings.capacity.toNat)]) =
      .ok { base with capacity := settings.capacity } := by
    simp [override, sections, queueSection, Section.apply, Section.set, setCount_integer]
  have workers (base : Settings) : override base ("workers", .table [
      ("count", .integer settings.workers.toNat),
      ("ignore_case", .boolean settings.ignoreCase)]) =
      .ok { base with workers := settings.workers, ignoreCase := settings.ignoreCase } := by
    simp [override, sections, queueSection, workersSection, Section.apply, Section.set,
      List.lookup_cons, setCount_integer, setBool_boolean, bind, Except.bind, pure, Except.pure]
  simp only [ofTable, table, List.foldlM_cons, queue, workers, bind, Except.bind]
  rfl

theorem toList_toString (value : Count) : (toString value).toList = Nat.toDigits 10 value.toNat :=
  String.toList_ofList

theorem readsBack_count {value : Count} (fits : value.toNat < 2 ^ 63) :
    Toml.ReadsBack (toString value).toList (.integer value.toNat) := by
  rw [toList_toString]
  exact Toml.readsBack_number fits

theorem return_not_mem_toString (value : Count) : '\r' ∉ (toString value).toList := by
  rw [toList_toString]
  exact (Toml.allDigits_toDigits value.toNat).not_mem '\r' rfl

/-- The document that is shown, in its three parts. -/
theorem toList_toml : settings.toml.toList =
    (Toml.writeTable "queue" [("capacity", toString settings.capacity)]).toList ++ '\n' ::
      ((Toml.writeTable "workers" [("count", toString settings.workers),
        ("ignore_case", Toml.writeBool settings.ignoreCase)]).toList ++ '\n' ::
      ((Toml.writeTable "output" [("format", Toml.writeString settings.format),
        ("show_workers", Toml.writeBool settings.showWorkers)]).toList ++ [])) := by
  simp [toml]

variable {settings}

/-- The statements of the document that is shown. -/
theorem holds_toml (writable : settings.Writable) :
    Toml.Holds settings.toml.toList [
      .table ⟨[], "queue"⟩, .entry ⟨[], "capacity"⟩ (.integer settings.capacity.toNat),
      .table ⟨[], "workers"⟩, .entry ⟨[], "count"⟩ (.integer settings.workers.toNat),
        .entry ⟨[], "ignore_case"⟩ (.boolean settings.ignoreCase),
      .table ⟨[], "output"⟩, .entry ⟨[], "format"⟩ (.string settings.format),
        .entry ⟨[], "show_workers"⟩ (.boolean settings.showWorkers)] := by
  have output := Toml.Holds.writeTable "output"
    [(("format", Toml.writeString settings.format), .string settings.format),
      (("show_workers", Toml.writeBool settings.showWorkers), .boolean settings.showWorkers)]
    (by decide) (by
      simp only [List.forall_mem_cons]
      exact ⟨⟨by decide, Toml.readsBack_string _⟩, ⟨by decide, Toml.readsBack_bool _⟩, nofun⟩)
    Toml.holds_nil
  have workers := Toml.Holds.writeTable "workers"
    [(("count", toString settings.workers), .integer settings.workers.toNat),
      (("ignore_case", Toml.writeBool settings.ignoreCase), .boolean settings.ignoreCase)]
    (by decide) (by
      simp only [List.forall_mem_cons]
      exact ⟨⟨by decide, readsBack_count writable.workers⟩,
        ⟨by decide, Toml.readsBack_bool _⟩, nofun⟩)
    output.newline
  have queue := Toml.Holds.writeTable "queue"
    [(("capacity", toString settings.capacity), .integer settings.capacity.toNat)]
    (by decide) (by
      simp only [List.forall_mem_cons]
      exact ⟨⟨by decide, readsBack_count writable.capacity⟩, nofun⟩)
    workers.newline
  rw [toList_toml]
  exact queue

/-- The document that is shown holds all settings. -/
theorem parse_toml (writable : settings.Writable) :
    Toml.parse settings.toml = some settings.table := by
  have noMark : settings.toml.toList.head? ≠ some '\ufeff' := by
    rw [toList_toml, Toml.toList_writeTable]
    exact fun same => absurd (Option.some.inj same) (by decide)
  have noReturn : '\r' ∉ settings.toml.toList := by
    rw [toList_toml]
    refine List.not_mem_append (Toml.return_not_mem_writeTable (by decide) ?_) <|
      List.not_mem_cons_of_ne_of_not_mem (by decide) <|
      List.not_mem_append (Toml.return_not_mem_writeTable (by decide) ?_) <|
      List.not_mem_cons_of_ne_of_not_mem (by decide) <|
      List.not_mem_append (Toml.return_not_mem_writeTable (by decide) ?_) List.not_mem_nil
    · simp only [List.forall_mem_cons]
      exact ⟨⟨by decide, return_not_mem_toString _⟩, nofun⟩
    · simp only [List.forall_mem_cons]
      exact ⟨⟨by decide, return_not_mem_toString _⟩,
        ⟨by decide, Toml.return_not_mem_writeBool _⟩, nofun⟩
    · simp only [List.forall_mem_cons]
      exact ⟨⟨by decide, Toml.return_not_mem_writeString _⟩,
        ⟨by decide, Toml.return_not_mem_writeBool _⟩, nofun⟩
  rw [(holds_toml writable).parse noReturn noMark]
  rfl

theorem readText_encode (text : String) :
    FileNode.readText (some (.file (Text.Utf8.encode text))) = .ok text := by
  rw [FileNode.readText, Text.Utf8.decodeStrict_encode]
  exact congrArg Except.ok String.ofList_toList

/-- The settings are loaded from the document that is shown, whatever the defaults are. -/
theorem ofFile_toml (writable : settings.Writable) (base : Settings) :
    ofFile base (some (.file (Text.Utf8.encode settings.toml))) = .ok settings := by
  rw [ofFile, readText_encode]
  simp only [ofText, parse_toml writable, ofTable_table]
  rfl

end Shown

/-! ## Settings that are loaded -/

/-- The settings can be loaded where some number of workers is the default: from a file, or by
looking for one in some places. -/
inductive Loaded (workers : Count) : Settings → Prop where
  | file {node : Option FileNode} {settings : Settings}
      (read : ofFile (defaults workers) node = .ok settings) : Loaded workers settings
  | found (places : List (String × Option FileNode)) :
      Loaded workers (find (defaults workers) places).1

theorem Loaded.writable {workers : Count} {settings : Settings} (loaded : Loaded workers settings)
    (few : workers.toNat < 2 ^ 63) : settings.Writable := by
  have standard : (defaults workers).Writable := ⟨show 64 < 2 ^ 63 by decide, few⟩
  cases loaded with
  | file read => exact writable_of_ofFile standard read
  | found places => exact writable_of_find standard places

/-- The settings with which the command runs have been loaded. -/
theorem loaded_of_settings {host : Command.Host} {options : Command.Options} {settings : Settings}
    {log : List LogLine} (held : host.settings options = .ok (settings, log)) :
    Loaded host.workers settings := by
  unfold Command.Host.settings at held
  dsimp only at held
  split at held
  next path _ =>
    split at held
    next read =>
      cases held
      exact .file read
    next => cases held
  next =>
    have same := congrArg Prod.fst (Except.ok.inj held)
    change _ = settings at same
    rw [← same]
    exact .found _

/-- All settings that can be loaded are loaded again from the document that shows them, whatever the
defaults are by then; and the command, when it is asked for its settings, has loaded them and writes
this document. -/
theorem shown_settings_load_back :
    (∀ (workers : Count) (settings : Settings), workers.toNat < 2 ^ 63 → Loaded workers settings →
      ∀ base, ofFile base (some (.file (Text.Utf8.encode settings.toml))) = .ok settings) ∧
    ∀ (host : Command.Host) (arguments : List String) (options : Command.Options)
      (settings : Settings) (log : List LogLine),
      Command.request host.environment arguments = .ok ⟨options, .showSettings⟩ →
      host.settings options = .ok (settings, log) →
      Loaded host.workers settings ∧
        host.run arguments = (Command.Outcome.written settings.toml).behind { log } := by
  refine ⟨fun workers settings few loaded => ofFile_toml (loaded.writable few), ?_⟩
  intro host arguments options settings log asked held
  refine ⟨loaded_of_settings held, ?_⟩
  rw [Command.Host.run, asked]
  simp only [held]
  rfl

/-- A file asks for the largest number that it can name, and for a text with a leading line break,
both kinds of quotes, a carriage return, a control character, a backslash and a mark; the document
that is shown holds both, in another form. -/
theorem shown_settings_load_back_of_quotes :
    let file := "[queue]\ncapacity = 9223372036854775807\n[output]\n" ++
      "format = \"\\n'''\\r\\n\\\"\\\"\\\"\\u0000\\\\\\uFEFF\"\n"
    let host : Command.Host := {
      environment := fun _ => none
      files := fun path => if path = "c" then some (.file (Text.Utf8.encode file)) else none
      input := { bytes := [] }
      workers := ⟨2, by decide⟩
      clock := ⟨0, .epoch⟩ }
    let settings : Settings := {
      capacity := ⟨2 ^ 63 - 1, by decide⟩, workers := ⟨2, by decide⟩, ignoreCase := false
      format := "\n'''\r\n\"\"\"\x00\\\ufeff", showWorkers := true }
    Command.request host.environment ["config", "--config", "c"] =
        .ok ⟨{ config := some "c" }, .showSettings⟩ ∧
      host.settings { config := some "c" } = .ok (settings, []) ∧
      host.run ["config", "--config", "c"] = (Command.Outcome.written settings.toml).behind {} ∧
      settings.toml = "[queue]\ncapacity = 9223372036854775807\n\n" ++
        "[workers]\ncount = 2\nignore_case = false\n\n" ++
        "[output]\nformat = \"\"\"\n\n'''\\r\n\"\"\\\"\\u0000\\\\\ufeff\"\"\"\nshow_workers = true\n" ∧
      ∀ base, ofFile base (some (.file (Text.Utf8.encode settings.toml))) = .ok settings := by
  intro file host settings
  have asked : Command.request host.environment ["config", "--config", "c"] =
      .ok ⟨{ config := some "c" }, .showSettings⟩ := by decide +kernel
  have held : host.settings { config := some "c" } = .ok (settings, []) := by decide +kernel
  rcases shown_settings_load_back.2 host _ _ settings [] asked held with ⟨loaded, ran⟩
  exact ⟨asked, held, ran, by decide +kernel,
    shown_settings_load_back.1 host.workers settings (show 2 < 2 ^ 63 by decide) loaded⟩

end LineTally.Settings
