import LineTally.Scan.Plan
import LineTally.Toml.Basic
import LineTally.Toml.Printer

/-!
# Settings

What can be set once for all scans.  Settings are grouped into sections; a document names those that
are to differ from the defaults, and whatever else it holds does not matter.
-/

namespace LineTally

/-- Settings for scans and for showing what they came to. -/
structure Settings where
  /-- The number of lines that may wait in the queue. -/
  capacity : Count
  /-- The number of workers. -/
  workers : Count
  /-- Whether case is ignored. -/
  ignoreCase : Bool
  /-- The name of the form in which a report is shown. -/
  format : String
  /-- Whether the workers are shown one by one. -/
  showWorkers : Bool
  deriving DecidableEq, Repr

namespace Settings

/-- The most workers that are usual. -/
def mostWorkers : Count := ⟨8, by decide⟩

/-- The number of workers that is right for a machine: as many as it has threads, up to a bound, or
two if it does not tell. -/
def usualWorkers : Option Count → Count
  | some threads => if threads.toNat ≤ mostWorkers.toNat then threads else mostWorkers
  | none => ⟨2, by decide⟩

/-- The settings on a machine for which a number of workers is right. -/
def defaults (workers : Count) : Settings where
  capacity := ⟨64, by decide⟩
  workers
  ignoreCase := false
  format := "plain"
  showWorkers := true

/-- How one setting is changed by a value. -/
abbrev Setter := Settings → Toml → Except Mismatch Settings

/-- Changes a setting to a count. -/
def setCount (set : Settings → Count → Settings) : Setter :=
  fun settings value => set settings <$> value.shape.toCount "usize"

/-- Changes a setting to a boolean. -/
def setBool (set : Settings → Bool → Settings) : Setter :=
  fun settings value => set settings <$> value.shape.toBool

/-- Changes a setting to a text. -/
def setText (set : Settings → String → Settings) : Setter :=
  fun settings value => set settings <$> value.shape.toText

/-- Settings that stand together in a document. -/
structure Section where
  /-- The name of the section. -/
  name : String
  /-- What a message calls the settings in it. -/
  kind : String
  /-- The settings in it, in order. -/
  setters : List (String × Setter)

/-- The section of the queue. -/
def queueSection : Section where
  name := "queue"
  kind := "QueueConfig"
  setters := [
    ("capacity", setCount fun settings capacity => { settings with capacity })]

/-- The section of the workers. -/
def workersSection : Section where
  name := "workers"
  kind := "WorkerConfig"
  setters := [
    ("count", setCount fun settings workers => { settings with workers }),
    ("ignore_case", setBool fun settings ignoreCase => { settings with ignoreCase })]

/-- The section of the output. -/
def outputSection : Section where
  name := "output"
  kind := "OutputConfig"
  setters := [
    ("format", setText fun settings format => { settings with format }),
    ("show_workers", setBool fun settings showWorkers => { settings with showWorkers })]

/-- All sections. -/
def sections : List Section := [queueSection, workersSection, outputSection]

/-- Changes a setting of a section by its name; other names do not matter. -/
def Section.set (group : Section) (settings : Settings) (member : String × Toml) :
    Except Mismatch Settings :=
  match group.setters.lookup member.1 with
  | some set => set settings member.2
  | none => .ok settings

/-- Changes the settings of a section: a table names them, an array gives them in order, and a date
or time names none. -/
def Section.apply (group : Section) (settings : Settings) : Toml → Except Mismatch Settings
  | .table members => members.foldlM group.set settings
  | .array items =>
    (group.setters.zip items).foldlM (fun settings given => given.1.2 settings given.2) settings
  | .moment _ => .ok settings
  | value => .error (.kind value.shape s!"struct {group.kind}")

/-- Changes the settings of the section with some name; other names do not matter. -/
def override (settings : Settings) (member : String × Toml) : Except Mismatch Settings :=
  match sections.find? (·.name = member.1) with
  | some group => group.apply settings member.2
  | none => .ok settings

/-- The settings that a document asks for, beside some defaults. -/
def ofTable (base : Settings) (members : List (String × Toml)) : Except Mismatch Settings :=
  members.foldlM override base

/-- The document that asks for the settings. -/
def toml (settings : Settings) : String :=
  Toml.writeTable "queue" [("capacity", toString settings.capacity)] ++ "\n"
    ++ Toml.writeTable "workers" [("count", toString settings.workers),
      ("ignore_case", Toml.writeBool settings.ignoreCase)] ++ "\n"
    ++ Toml.writeTable "output" [("format", Toml.writeString settings.format),
      ("show_workers", Toml.writeBool settings.showWorkers)]

/-- The plan of a scan for a term with these settings. -/
def plan (settings : Settings) (term : String) : Scan.Plan where
  capacity := settings.capacity.toNat
  workers := settings.workers.toNat
  term
  ignoreCase := settings.ignoreCase

end Settings

end LineTally
