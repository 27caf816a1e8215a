import LineTally.Command.Arguments
import LineTally.Command.Display
import LineTally.Settings.File

/-!
# Running the command

What the command does is a function of its arguments and of what it finds on the machine.
-/

namespace LineTally.Command

/-- What comes in. -/
structure Input where
  /-- The bytes that are there. -/
  bytes : List UInt8
  /-- The interruptions when they have been used up; if there are none, the input has ended. -/
  interruptions : Nat := 0
  /-- The bytes that come after the interruptions. -/
  later : List UInt8 := []
  deriving DecidableEq, Repr

/-- What the command finds on the machine. -/
structure Host where
  /-- The variables of the environment. -/
  environment : String → Option String
  /-- What is there under a path. -/
  files : String → Option FileNode
  /-- What comes in. -/
  input : Input
  /-- The number of workers that is right for the machine. -/
  workers : Count
  /-- The time. -/
  clock : Clock

/-- The variable that names a file of settings. -/
def configVariable : String := "LINEHUNT_CONFIG"

/-- The variable that has the whole log shown. -/
def debugVariable : String := "LINEHUNT_DEBUG"

/-- The request that arguments make in an environment. -/
def request (environment : String → Option String) (arguments : List String) :
    Except Stop Request :=
  Request.ofArguments arguments (environment configVariable)

/-- The paths at which settings are looked for. -/
def settingsPlaces (environment : String → Option String) : List String :=
  Settings.places (environment "XDG_CONFIG_HOME") (environment "HOME")

/-- The settings that hold for a request, or how the command ends without them. -/
def Host.settings (host : Host) (options : Options) :
    Except Outcome (Settings × List LogLine) :=
  let base := Settings.defaults host.workers
  match options.config with
  | some path =>
    match Settings.ofFile base (host.files path) with
    | .ok settings => .ok (settings, [])
    | .error refusal =>
      .error (.failed s!"Failed to load config from {path}" [refusal.message, refusal.reason])
  | none =>
    .ok (Settings.find base ((settingsPlaces host.environment).map fun path =>
      (path, host.files path)))

/-- The plan of a scan: what the options leave open is as it is set. -/
def Options.plan (options : Options) (settings : Settings) (term : String) : Scan.Plan :=
  let plan := settings.plan term
  { plan with
    capacity := (options.capacity.map (·.toNat)).getD plan.capacity
    workers := (options.workers.map (·.toNat)).getD plan.workers
    ignoreCase := plan.ignoreCase || options.ignoreCase }

/-- How the result is shown: what the options leave open is as it is set. -/
def Options.display (options : Options) (settings : Settings) : Display where
  format := options.format.getD (.ofSetting settings.format)
  showWorkers := settings.showWorkers && !options.totalOnly

/-- Whether a path stands for what comes in. -/
def isInputPath (path : String) : Bool :=
  match path.splitOn "/" with
  | "-" :: rest => rest.all fun part => part = "" || part = "."
  | _ => false

/-- The file that is to be read, unless it is what comes in. -/
def filePath? (file : Option String) : Option String :=
  file.filter fun path => !isInputPath path

/-- The number of lines that are there with the line feeds that end them. -/
def fullLines (bytes : List UInt8) : Nat :=
  bytes.count Lines.lineFeed

/-- What a scan of what comes in comes to. -/
def Host.scanInput (host : Host) (display : Display) (plan : Scan.Plan)
    (around : Scan.Surroundings) : Outcome :=
  let input := host.input
  match input.interruptions with
  | 0 =>
    let source := Scan.Feed.ofSplitter (.ofBytes input.bytes)
    display.run host.clock around (.start plan.capacity plan.workers source 0)
  | more + 1 =>
    let source := Scan.Feed.ofSplitter (.ofBytes (input.bytes ++ input.later))
    display.runInterrupted host.clock around (source.length - fullLines input.bytes) (0 < more)
      (.start plan.capacity plan.workers source 1)

/-- What a scan of a file comes to. -/
def Host.scanFile (host : Host) (display : Display) (plan : Scan.Plan)
    (around : Scan.Surroundings) (path : String) : Outcome :=
  match FileNode.openLines (host.files path) with
  | .error failure => .failed s!"Failed to open {path}" failure.causes
  | .ok splitter =>
    let source := Scan.Feed.ofSplitter splitter
    display.run host.clock around (.start plan.capacity plan.workers source 0)

/-- What a scan comes to. -/
def Host.scan (host : Host) (display : Display) (plan : Scan.Plan) (file : Option String) :
    Outcome :=
  match plan.setUp with
  | .error failure => .failed "Failed to set up scan" failure.causes
  | .ok () =>
    let around : Scan.Surroundings := { predicate := .ofTest plan.search.holds }
    match filePath? file with
    | none => host.scanInput display plan around
    | some path => host.scanFile display plan around path

/-- What a request comes to with some settings. -/
def Host.perform (host : Host) (request : Request) (settings : Settings) : Outcome :=
  match request.job with
  | .explain => .written Topic.command.text
  | .showSettings => .written settings.toml
  | .scan term file =>
    host.scan (request.options.display settings) (request.options.plan settings term) file

/-- What the command comes to. -/
def Host.run (host : Host) (arguments : List String) : Outcome :=
  match request host.environment arguments with
  | .error stop => stop.outcome
  | .ok request =>
    match host.settings request.options with
    | .error outcome => outcome
    | .ok (settings, log) => (host.perform request settings).behind { log }

/-- What has to be read before a request can be carried out. -/
structure Needs where
  /-- The files, as far as they are there. -/
  paths : List String := []
  /-- What comes in has to be read. -/
  input : Bool := false
  deriving DecidableEq, Repr

/-- What has to be read for a request. -/
def Request.needs (request : Request) (environment : String → Option String) : Needs :=
  let settings := match request.options.config with
    | some path => [path]
    | none => settingsPlaces environment
  match request.job with
  | .scan _ file =>
    match filePath? file with
    | some path => { paths := path :: settings }
    | none => { paths := settings, input := true }
  | _ => { paths := settings }

/-- Whether a line of the log is shown. -/
def showsLine (verbose : Bool) (line : LogLine) : Bool :=
  verbose || line.level ≠ .info

end LineTally.Command
