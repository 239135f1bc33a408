import SchemaNorm.Files.Path

/-!
A file system as data: a tree of directories, files and devices, addressed by paths. Paths
are resolved the way the operating system resolves them: from the root, `.` stays, `..`
climbs, every component before the last must be a directory, and a trailing `/` asks for a
directory. Relative paths are resolved from the root too, so a tree holds the working
directory as a top-level entry.

Failures carry the operating system's error: a missing entry, a directory where a file is
needed or the other way round, an entry that already exists, or bytes that are not UTF-8.
-/

namespace SchemaNorm

/-- The operating system errors file operations report. -/
inductive OsError where
  /-- No such file or directory. -/
  | notFound
  /-- A directory where a file is needed. -/
  | isDirectory
  /-- A file where a directory is needed. -/
  | notDirectory
  /-- The entry to create exists already. -/
  | alreadyExists
  /-- Text that is not UTF-8. -/
  | invalidUtf8
  /-- Any other error: its description and number. -/
  | other (description : String) (code : Nat)
  deriving DecidableEq, Repr

namespace OsError

/-- The error's description, as the platform words it. -/
def message : OsError → String
  | .notFound => "No such file or directory (os error 2)"
  | .isDirectory => "Is a directory (os error 21)"
  | .notDirectory => "Not a directory (os error 20)"
  | .alreadyExists => "File exists (os error 17)"
  | .invalidUtf8 => "stream did not contain valid UTF-8"
  | .other description code => description ++ " (os error " ++ toString code ++ ")"

end OsError

/-- What a path names. -/
inductive FileKind where
  | file
  | directory
  deriving DecidableEq, Repr

/-- An entry of a tree: a file with its bytes, a directory, or a device that reads as empty
and swallows what is written to it. -/
inductive FileEntry where
  | file (bytes : List UInt8)
  | directory
  | device
  deriving DecidableEq, Repr

/-- A tree of entries keyed by their resolved components. The root is always a directory;
every entry's ancestors are directories. -/
structure FileTree where
  entries : List (List String × FileEntry) := []
  deriving Repr

namespace FileTree

/-- The entry at resolved components; the root is a directory. -/
def entry? (t : FileTree) (key : List String) : Option FileEntry :=
  if key.isEmpty then some .directory else t.entries.lookup key

/-- Resolves the path components after `cur`: `.` stays, `..` climbs, and every
component that is walked through must be a directory. -/
def walk (t : FileTree) (cur : List String) : List String → Except OsError (List String)
  | [] => .ok cur
  | "." :: rest => walk t cur rest
  | ".." :: rest => walk t cur.dropLast rest
  | name :: rest =>
    let next := cur ++ [name]
    match t.entry? next, rest with
    | none, _ => .error .notFound
    | some _, [] => .ok next
    | some .directory, _ => walk t next rest
    | some _, _ => .error .notDirectory

/-- The raw components of a path: empty ones dropped, a trailing `/` kept as a final `.`. -/
def rawComponents (p : String) : List String :=
  let parts := (Path.pieces p).filter (· ≠ "")
  if p.endsWith "/" && !parts.isEmpty then parts ++ ["."] else parts

/-- The resolved components of an existing entry. -/
def resolve (t : FileTree) (p : String) : Except OsError (List String) :=
  walk t [] (rawComponents p)

/-- What an existing path names. -/
def kind (t : FileTree) (p : String) : Except OsError FileKind := do
  let key ← t.resolve p
  match t.entry? key with
  | some .directory => pure .directory
  | some _ => pure .file
  | none => throw .notFound

/-- The bytes of a file; reading a directory fails. -/
def read (t : FileTree) (p : String) : Except OsError (List UInt8) := do
  let key ← t.resolve p
  match t.entry? key with
  | some (.file bytes) => pure bytes
  | some .device => pure []
  | some .directory => throw .isDirectory
  | none => throw .notFound

/-- Replaces or adds the entry at resolved components. -/
def put (t : FileTree) (key : List String) (e : FileEntry) : FileTree :=
  { entries := (t.entries.filter (·.1 ≠ key)) ++ [(key, e)] }

/-- The tree with an entry at resolved components, its missing ancestors made
directories. -/
def insertWithParents (t : FileTree) (key : List String) (e : FileEntry) : FileTree :=
  let ancestors := ((List.range key.length).map fun n => key.take n).filter (!·.isEmpty)
  let t := ancestors.foldl (fun t a => if (t.entry? a).isSome then t else t.put a .directory) t
  t.put key e

/-- Splits a path into the path of its directory and its last raw component. -/
def splitLast (p : String) : List String × Option String :=
  match (rawComponents p).reverse with
  | [] => ([], none)
  | last :: rest => (rest.reverse, some last)

/-- Writes a file, creating or truncating it; its directory must exist. -/
def write (t : FileTree) (p : String) (bytes : List UInt8) : Except OsError FileTree := do
  let (dirParts, last) := splitLast p
  match last with
  | none => throw .isDirectory
  | some "." | some ".." => throw .isDirectory
  | some name =>
    let dir ← walk t [] dirParts
    match t.entry? dir with
    | some .directory => pure ()
    | some _ => throw .notDirectory
    | none => throw .notFound
    let key := dir ++ [name]
    match t.entry? key with
    | some .directory => throw .isDirectory
    | some .device => pure t
    | _ => pure (t.put key (.file bytes))

/-- Creates one directory; its parent must exist and the entry must not. -/
def makeDirectory (t : FileTree) (p : String) : Except OsError FileTree := do
  let (dirParts, last) := splitLast p
  match last with
  | none => throw .alreadyExists
  | some "." | some ".." => throw .alreadyExists
  | some name =>
    let dir ← walk t [] dirParts
    match t.entry? dir with
    | some .directory => pure ()
    | some _ => throw .notDirectory
    | none => throw .notFound
    let key := dir ++ [name]
    match t.entry? key with
    | some _ => throw .alreadyExists
    | none => pure (t.put key .directory)

/-- The files under a directory, with their paths relative to it, sorted by path. -/
def filesUnder (t : FileTree) (dir : List String) : List (String × List UInt8) :=
  let found := t.entries.filterMap fun (key, e) =>
    match e with
    | .file bytes =>
      if dir.isPrefixOf key && dir.length < key.length then
        some ("/".intercalate (key.drop dir.length), bytes)
      else none
    | _ => none
  found.mergeSort fun a b => decide (a.1 ≤ b.1)

end FileTree

end SchemaNorm
