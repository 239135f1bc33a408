import SchemaNorm.Files.Tree

/-!
File operations over any monad that can reach a file system, and the operations built from
them: whether a path exists, reading a file as UTF-8 text, and creating a directory with all
its missing ancestors. A file tree held as data is one such file system; the running program
uses the real one.
-/

namespace SchemaNorm

/-- The primitive file operations: what a path names, a file's bytes, writing a file, and
creating one directory. -/
class FileSystem (m : Type → Type) where
  kind : String → m (Except OsError FileKind)
  readBytes : String → m (Except OsError (List UInt8))
  writeBytes : String → List UInt8 → m (Except OsError Unit)
  makeDirectory : String → m (Except OsError Unit)

/-- A file tree held as data is a file system in the state monad. -/
instance : FileSystem (StateM FileTree) where
  kind p := return (← get).kind p
  readBytes p := return (← get).read p
  writeBytes p bytes := do
    match (← get).write p bytes with
    | .ok t => set t; return .ok ()
    | .error e => return .error e
  makeDirectory p := do
    match (← get).makeDirectory p with
    | .ok t => set t; return .ok ()
    | .error e => return .error e

namespace FileSystem

variable {m : Type → Type} [Monad m] [FileSystem m]

/-- Whether a path names an entry that can be reached. -/
def pathExists (p : String) : m Bool := do
  match ← kind p with
  | .ok _ => return true
  | .error _ => return false

/-- Whether a path names a directory. -/
def isDirectory (p : String) : m Bool := do
  match ← kind p with
  | .ok .directory => return true
  | _ => return false

/-- Text from bytes that must be UTF-8. -/
def decodeUtf8 (bytes : List UInt8) : Except OsError String :=
  match String.fromUTF8? (ByteArray.mk bytes.toArray) with
  | some s => .ok s
  | none => .error .invalidUtf8

/-- A file's text. -/
def readText (p : String) : m (Except OsError String) := do
  match ← readBytes p with
  | .ok bytes => return decodeUtf8 bytes
  | .error e => return .error e

/-- Writes text to a file as UTF-8. -/
def writeText (p : String) (text : String) : m (Except OsError Unit) :=
  writeBytes p text.toUTF8.toList

/-- Creates a directory and its missing ancestors; an existing directory is fine. Each
level climbs one component, so the number of components bounds the recursion. -/
def createDirAllWithin : Nat → String → m (Except OsError Unit)
  | 0, _ => return .ok ()
  | fuel + 1, p => do
    if p.isEmpty then return .ok ()
    match ← makeDirectory p with
    | .ok () => return .ok ()
    | .error .notFound =>
      match Path.parent? p with
      | none => return .error .notFound
      | some parent =>
        match ← createDirAllWithin fuel parent with
        | .error e => return .error e
        | .ok () =>
          match ← makeDirectory p with
          | .ok () => return .ok ()
          | .error e => if ← isDirectory p then return .ok () else return .error e
    | .error e => if ← isDirectory p then return .ok () else return .error e

/-- Creates a directory and its missing ancestors. -/
def createDirAll (p : String) : m (Except OsError Unit) :=
  createDirAllWithin ((Path.components p).length + 1) p

end FileSystem

end SchemaNorm
