import SchemaNorm.Cli.Run

/-!
The program's entry point: the command line run over the real file system, in the working
directory, printing what the run prints and exiting with its status.
-/

namespace SchemaNorm

/-- The operating system error a failed input/output operation reports, by its number. -/
def OsError.ofIO (e : IO.Error) : OsError :=
  let (code, details) : Nat × String := match e with
    | .alreadyExists _ c d | .otherError c d | .resourceBusy c d | .resourceVanished c d
    | .unsupportedOperation c d | .hardwareFault c d | .unsatisfiedConstraints c d
    | .illegalOperation c d | .protocolError c d | .timeExpired c d | .interrupted _ c d
    | .noFileOrDirectory _ c d | .invalidArgument _ c d | .permissionDenied _ c d
    | .resourceExhausted _ c d | .inappropriateType _ c d | .noSuchThing _ c d => (c.toNat, d)
    | .unexpectedEof => (0, "unexpected end of file")
    | .userError m => (0, m)
  match code with
  | 2 => .notFound
  | 17 => .alreadyExists
  | 20 => .notDirectory
  | 21 => .isDirectory
  | _ => .other details code

/-- The real file system. What a path names is found by reading it: a directory refuses to
be read. -/
instance : FileSystem IO where
  kind p := do
    try
      let _ ← IO.FS.readBinFile p
      return .ok .file
    catch e =>
      match OsError.ofIO e with
      | .isDirectory => return .ok .directory
      | err => return .error err
  readBytes p := do
    try
      let bytes ← IO.FS.readBinFile p
      return .ok bytes.toList
    catch e => return .error (OsError.ofIO e)
  writeBytes p bytes := do
    try
      IO.FS.writeBinFile p (ByteArray.mk bytes.toArray)
      return .ok ()
    catch e => return .error (OsError.ofIO e)
  makeDirectory p := do
    try
      IO.FS.createDir p
      return .ok ()
    catch e => return .error (OsError.ofIO e)

end SchemaNorm

/-- Runs the command line in the working directory. -/
def main (args : List String) : IO UInt32 := do
  let cwd ← IO.currentDir
  let outcome ← SchemaNorm.Cli.run cwd.toString args
  IO.print outcome.stdout
  IO.eprint outcome.stderr
  return outcome.code.toUInt32
