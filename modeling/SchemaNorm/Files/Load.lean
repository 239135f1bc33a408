import SchemaNorm.Files.System
import SchemaNorm.Graph.Text
import SchemaNorm.Config

/-!
Reading snapshots and configuration files. A missing file, an unreadable one and one that
cannot be written are file errors naming the path; other failures are described by a chain
of messages, the outermost first, each adding context to the one after it.
-/

namespace SchemaNorm

/-- A failed file operation, with the path as given and the operating system's reason. -/
inductive IoError where
  | fileNotFound (path : String)
  | fileRead (path cause : String)
  | fileWrite (path cause : String)
  deriving DecidableEq, Repr

namespace IoError

/-- The error's text. -/
def message : IoError → String
  | .fileNotFound path => "File not found: " ++ path
  | .fileRead path cause => "Failed to read file: " ++ path ++ " (cause: " ++ cause ++ ")"
  | .fileWrite path cause => "Failed to write file: " ++ path ++ " (cause: " ++ cause ++ ")"

/-- The error's kind: `FileNotFound`, `FileRead` or `FileWrite`. -/
def kindName : IoError → String
  | .fileNotFound .. => "FileNotFound"
  | .fileRead .. => "FileRead"
  | .fileWrite .. => "FileWrite"

/-- Whether the file was missing. -/
def isFileNotFound : IoError → Bool
  | .fileNotFound .. => true
  | _ => false

/-- Whether reading failed. -/
def isFileRead : IoError → Bool
  | .fileRead .. => true
  | _ => false

/-- Whether writing failed. -/
def isFileWrite : IoError → Bool
  | .fileWrite .. => true
  | _ => false

end IoError

/-- A failure: its messages from the outermost context to the root cause, and the file error
at the root when there is one. -/
structure Failure where
  chain : List String
  io : Option IoError := none
  deriving DecidableEq, Repr

namespace Failure

/-- A failure caused by a file error. -/
def ofIo (e : IoError) : Failure := { chain := [e.message], io := some e }

/-- A failure described by one message. -/
def ofMessage (m : String) : Failure := { chain := [m] }

/-- The failure with one more context around it. -/
def withContext (context : String) (f : Failure) : Failure := { f with chain := context :: f.chain }

/-- The outermost message. -/
def message (f : Failure) : String := f.chain.headD ""

/-- Every message, outermost first, separated by colons. -/
def display (f : Failure) : String := ": ".intercalate f.chain

end Failure

variable {m : Type → Type} [Monad m] [FileSystem m]

/-- The text of an existing file: missing and unreadable files are file errors. -/
def readExisting (path : String) : m (Except Failure String) := do
  if !(← FileSystem.pathExists path) then
    return .error (.ofIo (.fileNotFound path))
  match ← FileSystem.readText path with
  | .ok text => return .ok text
  | .error e => return .error (.ofIo (.fileRead path e.message))

/-- Reads a snapshot file, in the format its extension names. -/
def readSnapshot (path : String) : m (Except Failure Graph) := do
  match ← readExisting path with
  | .error f => return .error f
  | .ok text =>
    match Graph.parseText (SnapshotFormat.ofPath path) text with
    | .ok g => return .ok g
    | .error reason =>
      return .error ((Failure.ofMessage reason).withContext
        ("Failed to parse schema graph: " ++ Path.quoted path))

/-- Reads and checks a configuration file. -/
def readConfig (path : String) : m (Except Failure Config) := do
  match ← readExisting path with
  | .error f => return .error f
  | .ok text =>
    match Config.load text with
    | .ok c => return .ok c
    | .error reason => return .error (.ofMessage reason)

end SchemaNorm
