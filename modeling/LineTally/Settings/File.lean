import LineTally.Files
import LineTally.Settings.Basic
import LineTally.Toml.Parser

/-!
# Files of settings

Settings are read from a file that somebody names, or looked for in the usual places.  A file that
was named must be right; one that was only looked for is passed over if it is not.
-/

namespace LineTally.Settings

/-- Why a file gives no settings. -/
inductive Refusal where
  /-- It cannot be read. -/
  | unreadable (error : IoError)
  /-- It is no TOML document. -/
  | malformed
  /-- A setting has a value of the wrong form. -/
  | mismatch (found : Mismatch)
  deriving Repr

/-- What is behind a refusal. -/
def Refusal.reason : Refusal → String
  | unreadable error => error.message
  | malformed => "not a TOML document"
  | mismatch found => found.message

/-- The text by which a refusal is reported. -/
def Refusal.message : Refusal → String
  | unreadable error => "Failed to read config file: " ++ error.message
  | refusal => "Failed to parse config: " ++ refusal.reason

/-- A refusal as a failure of the library. -/
def Refusal.failure (refusal : Refusal) : Failure :=
  .config refusal.message

/-- The settings that a text asks for. -/
def ofText (base : Settings) (text : String) : Except Refusal Settings :=
  match Toml.parse text with
  | none => .error .malformed
  | some members => (ofTable base members).mapError .mismatch

/-- The settings in a file. -/
def ofFile (base : Settings) (node : Option FileNode) : Except Refusal Settings :=
  match FileNode.readText node with
  | .error error => .error (.unreadable error)
  | .ok text => ofText base text

/-- What is written to the log when a file is passed over. -/
def Refusal.notice (path : String) (refusal : Refusal) : LogLine :=
  ⟨.warn, s!"Ignoring malformed {path}: {refusal.reason}"⟩

/-- The settings in the first of some files that gives any, or else the defaults.  Nothing is said
of a file that cannot be read. -/
def find (base : Settings) : List (String × Option FileNode) → Settings × List LogLine
  | [] => (base, [])
  | (path, node) :: places =>
    match ofFile base node with
    | .ok settings => (settings, [])
    | .error (.unreadable _) => find base places
    | .error refusal =>
      let (settings, log) := find base places
      (settings, refusal.notice path :: log)

/-- The file of settings for the current directory. -/
def localPath : String := ".linehunt.toml"

/-- The directory of a user's settings: an absolute path that is set for them, or else one in the
home directory. -/
def directory? (configHome home : Option String) : Option String :=
  match configHome.filter (·.startsWith "/"), home.filter (· ≠ "") with
  | some path, _ => some path
  | none, some path => some (path ++ "/.config")
  | none, none => none

/-- The paths at which settings are looked for. -/
def places (configHome home : Option String) : List String :=
  localPath :: ((directory? configHome home).map (· ++ "/linehunt/config.toml")).toList

end LineTally.Settings
