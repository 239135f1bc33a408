import SchemaNorm.Cli.Parse
import SchemaNorm.Files.Load
import SchemaNorm.Normalize
import SchemaNorm.Checksum
import SchemaNorm.Validation
import SchemaNorm.Schema.Encode
import SchemaNorm.Json.Writer
import SchemaNorm.Render.Literal

/-!
Running the command line against a file system. Every command but `init` first loads the
configuration (the default file when present, or the one `--config` names, which must
exist), then reads and normalizes the snapshot: the one `--input` names, or the configured
one. Relative paths are taken from the project directory.

* `init` writes the default configuration (refusing to overwrite it without `--force`) and
  an example snapshot, unless a snapshot is already there.
* `summary` prints the normalized schema's summary and checksum, or the schema as JSON.
* `generate` renders the schema for a target and prints it or writes it to the output file.
* `validate` prints the validation report; a report with errors is the command's failure.

A command's text goes to standard output with a final line break and exit status 0; a
failure prints `Error: ` and its chain of messages to standard error, with status 1.
-/

namespace SchemaNorm

namespace Cli

/-- What a run of the program leaves: its exit status and its two output streams. -/
structure Outcome where
  code : Nat
  stdout : String
  stderr : String
  deriving DecidableEq, Repr

/-- The example snapshot a new project starts with. -/
def exampleGraph : String := Render.unlines [
   "version: \"1\"",
   "entries:",
   "  - kind: enum",
   "    binding: roleEnum",
   "    name: Role",
   "    values: [ADMIN, USER]",
   "",
   "  - kind: table",
   "    binding: users",
   "    name: User",
   "    columns:",
   "      - \x7b alias: id, name: id, storage: text, sql_type: text, primary: true, not_null: true \x7d",
   "      - \x7b alias: email, name: email, storage: varchar, sql_type: varchar(255), not_null: true, unique: true \x7d",
   "      - \x7b alias: role, name: role, storage: enum, sql_type: role, enum_name: Role, not_null: true, has_default: true, default_value: USER \x7d",
   "      - \x7b alias: settingsId, name: settings_id, storage: text, sql_type: text \x7d",
   "      - \x7b alias: createdAt, name: created_at, storage: timestamp, sql_type: timestamp with time zone, not_null: true, has_default: true \x7d",
   "    indexes:",
   "      - \x7b name: users_email_idx, columns: [email], unique: true \x7d",
   "",
   "  - kind: table",
   "    binding: userSettings",
   "    name: UserSettings",
   "    columns:",
   "      - \x7b alias: id, name: id, storage: text, sql_type: text, primary: true, not_null: true \x7d",
   "      - \x7b alias: theme, name: theme, storage: text, sql_type: text, not_null: true, has_default: true, default_value: light \x7d",
   "",
   "  - kind: table",
   "    binding: posts",
   "    name: Post",
   "    columns:",
   "      - \x7b alias: id, name: id, storage: text, sql_type: text, primary: true, not_null: true \x7d",
   "      - \x7b alias: authorId, name: author_id, storage: text, sql_type: text, not_null: true \x7d",
   "      - \x7b alias: tags, name: tags, storage: array, sql_type: \"text[]\" \x7d",
   "    foreign_keys:",
   "      - \x7b columns: [author_id], foreign_table: User, foreign_columns: [id] \x7d",
   "",
   "  - kind: relations",
   "    binding: userRelations",
   "    table: User",
   "    relations:",
   "      - name: settings",
   "        cardinality: one",
   "        referenced_table: UserSettings",
   "        config: \x7b fields: [settings_id], references: [id] \x7d",
   "      - name: posts",
   "        cardinality: many",
   "        referenced_table: Post",
   "",
   "  - kind: relations",
   "    binding: postRelations",
   "    table: Post",
   "    relations:",
   "      - name: author",
   "        cardinality: one",
   "        referenced_table: User"]

/-- The configuration and paths a command works with. -/
structure Context where
  project : String
  configPath : String
  config : Config

variable {m : Type → Type} [Monad m] [FileSystem m]

/-- Loads the configuration: the file `--config` names (which must exist), or else the
default file when it exists, or else the defaults. -/
def loadContext (project : String) (configArg : Option String) :
    m (Except Failure Context) := do
  let configPath := Path.join project (configArg.getD configFile)
  if ← FileSystem.pathExists configPath then
    match ← readConfig configPath with
    | .ok config => return .ok { project, configPath, config }
    | .error f => return .error (f.withContext "Failed to read config file")
  else if configArg.isSome then
    return .error (.ofMessage ("Config file not found: " ++ Path.quoted configPath))
  else return .ok { project, configPath, config := {} }

/-- Reads and normalizes the snapshot: the given one, or the configured one. -/
def loadSchema (ctx : Context) (input : Option String) : m (Except Failure Schema) := do
  let inputPath := Path.join ctx.project (input.getD ctx.config.input)
  match ← readSnapshot inputPath with
  | .error f => return .error f
  | .ok g =>
    match g.normalize ctx.config.unresolvedRelations with
    | .ok s => return .ok s
    | .error e => return .error ((Failure.ofMessage e.message).withContext
        ("Failed to normalize schema graph: " ++ Path.quoted inputPath))

/-- Writes text to a file; failing is a write error on that path. -/
def writeFile (path text : String) : m (Except Failure Unit) := do
  match ← FileSystem.writeText path text with
  | .ok () => return .ok ()
  | .error e => return .error (.ofIo (.fileWrite path e.message))

/-- Creates the configuration and the example snapshot. -/
def initProject (project : String) (force : Bool) : m (Except Failure String) := do
  let configPath := Path.join project configFile
  if (← FileSystem.pathExists configPath) && !force then
    return .error (.ofMessage
      "Project is already initialized. Use --force option to force re-initialization.")
  if let .error f ← writeFile configPath ({} : Config).toYaml then return .error f
  let created := "Created " ++ configPath ++ "\n"
  let graphPath := Path.join project defaultGraphFile
  let graphLine ← if ← FileSystem.pathExists graphPath then
      pure (Except.ok ("Kept existing " ++ defaultGraphFile ++ "\n"))
    else do
      let madeDir ← match Path.parent? graphPath with
        | some dir => do
          match ← FileSystem.createDirAll dir with
          | .ok () => pure (Except.ok ())
          | .error e => pure (Except.error
              { chain := ["Failed to create directory: " ++ Path.quoted dir, e.message] })
        | none => pure (Except.ok ())
      match madeDir with
      | .error f => pure (Except.error f)
      | .ok () =>
        match ← writeFile graphPath exampleGraph with
        | .error f => pure (Except.error f)
        | .ok () => pure (Except.ok ("Created " ++ graphPath ++ "\n"))
  match graphLine with
  | .error f => return .error f
  | .ok line => return .ok (created ++ line ++
      "Project initialized. Run " ++ "`" ++ "tessera summary" ++ "`" ++
      " to inspect the schema graph.")

/-- The summary and checksum, or the schema as JSON. -/
def summarize (ctx : Context) (input : Option String) (json : Bool) :
    m (Except Failure String) := do
  match ← loadSchema ctx input with
  | .error f => return .error f
  | .ok s =>
    if json then return .ok (Json.pretty 0 s.toJson)
    else return .ok (s.summary ++ "Checksum: " ++ s.checksum)

/-- The prelude file for the Prisma output: the one given, or the configured one. -/
def loadPrelude (ctx : Context) (base : Option String) : m (Except Failure (Option String)) := do
  match base.orElse fun _ => ctx.config.basePrelude with
  | none => return .ok none
  | some p =>
    match ← readExisting (Path.join ctx.project p) with
    | .ok text => return .ok (some text)
    | .error f => return .error f

/-- Renders the schema for a target, printing it or writing it to the output file. -/
def generate (ctx : Context) (target : Target) (input base output : Option String)
    (toStdout : Bool) : m (Except Failure String) := do
  match ← loadSchema ctx input with
  | .error f => return .error f
  | .ok s =>
    let prelude ← match target with
      | .prisma => loadPrelude ctx base
      | .types => pure (.ok none)
    match prelude with
    | .error f => return .error f
    | .ok prelude =>
      let document := target.render prelude s
      if toStdout then return .ok document
      let configured := match target with
        | .prisma => ctx.config.outputs.prisma
        | .types => ctx.config.outputs.types
      let outPath := Path.join ctx.project (output.getD configured)
      if let some dir := Path.parent? outPath then
        if let .error e ← FileSystem.createDirAll dir then
          return .error (.ofIo (.fileWrite outPath e.message))
      if let .error f ← writeFile outPath document then return .error f
      return .ok ("✓ Generated " ++ target.name ++ " (" ++ toString s.models.length ++
        " models, " ++ toString s.enums.length ++ " enums): " ++ outPath)

/-- The counts closing a validation report. -/
def statistics (s : Schema) : String :=
  let columns := s.models.foldl (fun n md => n + md.columns.length) 0
  let indexes := s.models.foldl (fun n md => n + md.indexes.length) 0
  "Models: " ++ toString s.models.length ++ "\nColumns: " ++ toString columns ++
  "\nIndexes: " ++ toString indexes ++ "\nEnums: " ++ toString s.enums.length ++
  "\nRelations: " ++ toString s.relations.length ++ "\n"

/-- The validation report: errors with their suggestions, warnings, statistics, result. -/
def report (v : Validation) (s : Schema) : String :=
  let errors := if v.errors.isEmpty then ""
    else "✗ " ++ toString v.errors.length ++ " error(s) found:\n\n" ++
      String.join ((v.errors.zip (List.range v.errors.length)).map fun (e, i) =>
        toString (i + 1) ++ ". " ++ e.text ++ "\n" ++
        (match e.suggestion with
          | some hint => "   Suggestion: " ++ hint ++ "\n"
          | none => "") ++ "\n")
  let warnings := if v.warnings.isEmpty then ""
    else "⚠ " ++ toString v.warnings.length ++ " warning(s) found:\n\n" ++
      String.join (v.warnings.map fun w => "- " ++ w.format ++ "\n") ++ "\n"
  let result := if v.isValid then "✓ Validation complete. No errors found.\n"
    else "✗ Validation complete. " ++ toString v.errors.length ++ " error(s) found.\n"
  "=== Schema Validation Results ===\n\n" ++ errors ++ warnings ++
  "=== Validation Statistics ===\n" ++ statistics s ++ "\n=== Result ===\n" ++ result

/-- Validates the schema; a report with errors is a failure. -/
def validateSchema (ctx : Context) (input : Option String) : m (Except Failure String) := do
  match ← loadSchema ctx input with
  | .error f => return .error f
  | .ok s =>
    let v := s.validate
    let text := report v s
    if v.isValid then return .ok text else return .error (.ofMessage text)

/-- Runs a request in the project directory. -/
def execute (project : String) (inv : Invocation) : m (Except Failure String) := do
  match inv.command with
  | .init force => initProject project force
  | command =>
    match ← loadContext project inv.config with
    | .error f => return .error f
    | .ok ctx =>
      match command with
      | .summary input json => summarize ctx input json
      | .generate target input base output toStdout =>
        generate ctx target input base output toStdout
      | .validate input => validateSchema ctx input
      | .init force => initProject project force

/-- Runs the program with the given arguments (without the program name) in the project
directory. -/
def run (project : String) (args : List String) : m Outcome := do
  match parseArgs args with
  | .error e => return { code := e.code, stdout := e.stdout, stderr := e.stderr }
  | .ok inv =>
    match ← execute project inv with
    | .ok text =>
      let out := if text.isEmpty then "" else text ++ "\n"
      return { code := 0, stdout := out, stderr := "" }
    | .error f => return { code := 1, stdout := "", stderr := "Error: " ++ f.display ++ "\n" }

end Cli

end SchemaNorm
