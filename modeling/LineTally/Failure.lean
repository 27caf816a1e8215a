/-!
# Failures

What can keep a scan from starting, and what can go wrong with a file.  Each failure is a value
that names its cause; its wording is in one place.
-/

namespace LineTally

/-- A failed operation on a file or a stream. -/
structure IoError where
  /-- The operation was only interrupted, and may be tried again. -/
  interrupted : Bool := false
  /-- The words of the system. -/
  message : String
  deriving DecidableEq, Repr

namespace IoError

/-- There is no file of that name. -/
def notFound : IoError := { message := "No such file or directory (os error 2)" }

/-- A directory was read as a file. -/
def isDirectory : IoError := { message := "Is a directory (os error 21)" }

/-- A file that should hold text holds bytes that are none. -/
def notText : IoError := { message := "stream did not contain valid UTF-8" }

/-- More memory was asked for than can ever be addressed. -/
def capacityOverflow : IoError := {
  message := "memory allocation failed because the computed capacity exceeded "
    ++ "the collection's maximum" }

/-- More memory was asked for than there is. -/
def outOfMemory : IoError := {
  message := "memory allocation failed because the memory allocator returned an error" }

end IoError

/-- Why an operation of the library failed. -/
inductive Failure where
  /-- An operation on a file. -/
  | io (cause : IoError)
  /-- A setting that cannot be used. -/
  | config (reason : String)
  /-- Something that a scan needs cannot be had. -/
  | resource (what : String) (cause : IoError)
  /-- The source of the lines. -/
  | source (cause : IoError)
  deriving DecidableEq, Repr

namespace Failure

/-- The text by which a failure is reported. -/
def message : Failure → String
  | io cause => "IO error: " ++ cause.message
  | config reason => "Configuration error: " ++ reason
  | resource what cause => "Failed to start " ++ what ++ ": " ++ cause.message
  | source cause => "Line source error: " ++ cause.message

/-- What a failure was caused by, in the words of the system. -/
def cause? : Failure → Option String
  | io cause => some cause.message
  | config _ => none
  | resource _ cause => some cause.message
  | source cause => some cause.message

/-- The text of a failure, and behind it the words of the system if they caused it. -/
def causes (failure : Failure) : List String :=
  failure.message :: failure.cause?.toList

end Failure

/-- How much a line of the log matters. -/
inductive Level where
  | info
  | warn
  | error
  deriving DecidableEq, Repr

/-- The name of a level in the log. -/
def Level.label : Level → String
  | info => "INFO"
  | warn => "WARN"
  | error => "ERROR"

/-- A line of the log. -/
structure LogLine where
  level : Level
  message : String
  deriving DecidableEq, Repr

/-- A line of the log behind its level. -/
def LogLine.render (line : LogLine) : String :=
  line.level.label ++ " " ++ line.message

/-- The bytes that one allocation may have at most. -/
def allocationLimit : Nat := Nat.pow 2 63 - 1

/-- The bytes beyond which no system has memory to give. -/
def memoryLimit : Nat := Nat.pow 2 47

/-- Asks for room for some things of a given size in bytes. -/
def allocate (what : String) (number size : Nat) : Except Failure Unit :=
  if number * size > allocationLimit then .error (.resource what .capacityOverflow)
  else if number * size > memoryLimit then .error (.resource what .outOfMemory)
  else .ok ()

end LineTally
