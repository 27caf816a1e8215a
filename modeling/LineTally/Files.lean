import LineTally.Lines.Splitter

/-!
# Files

What a name in a file system may stand for, as far as reading is concerned.
-/

namespace LineTally

/-- What is there under a name. -/
inductive FileNode where
  /-- A file with some bytes. -/
  | file (bytes : List UInt8)
  /-- A directory: it can be opened, but every attempt to read it fails. -/
  | directory
  /-- Something that cannot be opened. -/
  | barred (error : IoError)
  deriving DecidableEq, Repr

namespace FileNode

/-- Reads what is there as text. -/
def readText : Option FileNode → Except IoError String
  | none => .error .notFound
  | some .directory => .error .isDirectory
  | some (.barred error) => .error error
  | some (.file bytes) =>
    match Text.Utf8.decodeStrict bytes with
    | some chars => .ok (String.ofList chars)
    | none => .error .notText

/-- Opens what is there, to be read line by line. -/
def openLines : Option FileNode → Except Failure Lines.Splitter
  | none => .error (.source .notFound)
  | some .directory => .ok (.ofFailing .isDirectory)
  | some (.barred error) => .error (.source error)
  | some (.file bytes) => .ok (.ofBytes bytes)

end FileNode

end LineTally
