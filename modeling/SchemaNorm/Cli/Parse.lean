import SchemaNorm.Cli.Spec
import SchemaNorm.Render.Target

/-!
Reading the command line. Arguments are read left to right: options of the current command
(long `--name`, `--name=value`, short `-n`, `-nvalue`, clustered `-vf`), the subcommand
name, and `--`, after which nothing is an option. A value-taking option takes the rest of
its argument or else the next word; at the top level a subcommand's name is never taken as
a value.

A value is checked, and its option recorded, only when the next known option is met or the
reading ends, so an unknown argument is reported before a bad value met earlier. The first
problem found ends the reading: an unknown argument or subcommand (with a suggestion when
one is similar), an option given twice, a missing or invalid value. `-h` and `--help` print
the short or long help of the current command, `-V` and `--version` the version. After
reading, conflicting options and missing required ones of the subcommand are reported, and
then the program options still awaiting a value.
-/

namespace SchemaNorm

namespace Cli

/-- What the command line asks for. -/
inductive Command where
  | init (force : Bool)
  | summary (input : Option String) (json : Bool)
  | generate (target : Target) (input base output : Option String) (stdout : Bool)
  | validate (input : Option String)
  deriving Repr

/-- A complete request: the global settings and the subcommand. -/
structure Invocation where
  config : Option String := none
  verbose : Bool := false
  noColor : Bool := false
  command : Command
  deriving Repr

/-- How reading ended early: text for standard output or standard error, and the exit
status (0 for help and version, 2 for usage errors). -/
structure Exit where
  code : Nat
  stdout : String := ""
  stderr : String := ""
  deriving DecidableEq, Repr

/-- A usage error. -/
def usageError (text : String) : Exit := { code := 2, stderr := text }

/-- Printed help or version. -/
def printed (text : String) : Exit := { code := 0, stdout := text }

/-- The options one command was given: values by option, flags, and every option in the
order first given. -/
structure Matches where
  values : List (String × String) := []
  flags : List String := []
  order : List String := []
  deriving Repr

namespace Matches

/-- Whether the option was given. -/
def has (m : Matches) (id : String) : Bool := m.order.contains id

/-- The option's value. -/
def value? (m : Matches) (id : String) : Option String := m.values.lookup id

/-- Whether the flag was given. -/
def flag (m : Matches) (id : String) : Bool := m.flags.contains id

end Matches

/-- The command whose options are being read: the program itself or a subcommand. -/
inductive Scope where
  | root
  | sub (s : Subcommand)

namespace Scope

/-- The options accepted here. -/
def accepted : Scope → List OptionSpec
  | .root => rootAccepted
  | .sub s => s.accepted

/-- The usage line for errors found while reading. -/
def usage : Scope → String
  | .root => rootUsage
  | .sub s => s.usage

/-- The help screen. -/
def help (long : Bool) : Scope → String
  | .root => rootHelp long
  | .sub s => s.help long

/-- The version line. -/
def versionText : Scope → String
  | .root => versionLine none
  | .sub s => versionLine (some s.name)

end Scope

/-- A value-taking option met on the line. Its value, once read, is checked and recorded
only when the next known option is met or the reading ends; until then an unknown argument
is reported first. -/
structure Pending where
  option : OptionSpec
  value : Option String

/-- The reading so far: the program's options, the subcommand and its options, the option
awaiting its value, the program option still awaiting one when the subcommand began, and
whether `--` was seen. -/
structure Reading where
  root : Matches := {}
  sub : Option (Subcommand × Matches) := none
  pending : Option Pending := none
  rootPending : Option Pending := none
  raw : Bool := false

namespace Reading

/-- The command being read. -/
def scope (r : Reading) : Scope :=
  match r.sub with
  | some (s, _) => .sub s
  | none => .root

/-- The options of the command being read. -/
def current (r : Reading) : Matches :=
  match r.sub with
  | some (_, m) => m
  | none => r.root

/-- Replaces the options of the command being read. -/
def setCurrent (r : Reading) (m : Matches) : Reading :=
  match r.sub with
  | some (s, _) => { r with sub := some (s, m) }
  | none => { r with root := m }

end Reading

/-- The usage line naming the options given: the help usage when none was, else the
command with its required options and then the given ones, each once. -/
def Scope.givenUsage (scope : Scope) (given : List String) : String :=
  if given.isEmpty then scope.usage
  else
    let shown (os : List OptionSpec) (ids : List String) :=
      String.join (ids.filterMap fun id => (os.find? (·.id == id)).map (" " ++ ·.display))
    match scope with
    | .root => "tessera" ++ shown rootAccepted given ++ " <COMMAND>"
    | .sub s => "tessera " ++ s.name ++
        shown s.accepted (s.required ++ given.filter fun id => !s.required.contains id)

/-- The error for an argument the command does not know. -/
def unexpectedArgument (arg : String) (tips : List String) (usage : String) : Exit :=
  usageError (errorWithUsage ("unexpected argument '" ++ arg ++ "' found") tips usage)

/-- The error for an unknown subcommand name, with similar names suggested. -/
def unrecognizedSubcommand (name : String) : Exit :=
  let tips := match suggestions name subcommandNames with
    | [] => []
    | [one] => ["a similar subcommand exists: '" ++ one ++ "'"]
    | more => ["some similar subcommands exist: " ++ quotedList more]
  usageError (errorWithUsage ("unrecognized subcommand '" ++ name ++ "'") tips rootUsage)

/-- Checks a value for its option: paths must not be empty, a target must be known. -/
def checkValue (o : OptionSpec) (v : String) : Except Exit Unit :=
  if o.id = "target" then
    match Target.ofName? v with
    | some _ => .ok ()
    | none => .error (usageError (errorWithoutUsage ("invalid value '" ++ v ++ "' for '" ++
        o.display ++ "': " ++ Target.unsupportedMessage v)))
  else if v.isEmpty then
    .error (usageError (errorWithoutUsage ("a value is required for '" ++ o.display ++
      "' but none was supplied")))
  else .ok ()

/-- Records an option of the command being read; giving one twice is an error. -/
def record (r : Reading) (o : OptionSpec) (value : Option String) : Except Exit Reading := do
  let m := r.current
  if m.has o.id then
    throw (usageError (errorWithUsage ("the argument '" ++ o.display ++
      "' cannot be used multiple times") [] r.scope.usage))
  match value with
  | some v =>
    checkValue o v
    pure (r.setCurrent { m with values := m.values ++ [(o.id, v)], order := m.order ++ [o.id] })
  | none => pure (r.setCurrent { m with flags := m.flags ++ [o.id], order := m.order ++ [o.id] })

/-- Whether an argument is an option rather than a value. -/
def looksLikeOption (arg : String) : Bool := arg.startsWith "-" && arg != "-"

/-- The error for a value-taking option without a value. -/
def missingValue (o : OptionSpec) : Exit :=
  usageError (errorWithoutUsage ("a value is required for '" ++ o.display ++
    "' but none was supplied"))

/-- Settles the pending option: without a value it is an error, with one it is recorded. -/
def settle (r : Reading) : Except Exit Reading :=
  match r.pending with
  | none => .ok r
  | some p =>
    let r := { r with pending := none }
    match p.value with
    | none => .error (missingValue p.option)
    | some v => record r p.option (some v)

/-- The options given once the pending option is settled, whatever its fault: an option
without a value is left out, one given twice drops out entirely, and one with a bad value
counts as given. -/
def settledGiven (r : Reading) : List String :=
  let order := r.current.order
  match r.pending with
  | some ⟨o, some _⟩ => if order.contains o.id then order.erase o.id else order ++ [o.id]
  | _ => order

/-- Takes an option with its value, if any, after settling the pending one. -/
def react (r : Reading) (o : OptionSpec) (value : Option String) : Except Exit Reading := do
  let r ← settle r
  record r o value

/-- Waits for a value-taking option's value, after settling the pending option. -/
def await (r : Reading) (o : OptionSpec) : Except Exit Reading := do
  let r ← settle r
  pure { r with pending := some ⟨o, none⟩ }

/-- What an option does when met: help and version end the reading. -/
def special (scope : Scope) (o : OptionSpec) (long : Bool) : Option Exit :=
  if o.id = "help" then some (printed (scope.help long))
  else if o.id = "version" then some (printed scope.versionText)
  else none

/-- Takes a flag, after settling the pending option; help and version end the reading. -/
def takeFlag (r : Reading) (o : OptionSpec) (long : Bool) : Except Exit Reading := do
  let r ← settle r
  match special r.scope o long with
  | some e => throw e
  | none => record r o none

/-- For an unknown option at the top level, the most similar option of the subcommand
named first among the later arguments: that subcommand and the option. -/
def laterSuggestion (name : String) (later : List String) : Option (String × String) :=
  let named := subcommands.filterMap fun s =>
    match (suggestions name (s.accepted.map (·.long))).getLast?, later.idxOf? s.name with
    | some best, some place => some (place, s.name, best)
    | _, _ => none
  match named.mergeSort (fun a b => a.1 ≤ b.1) with
  | (_, sub, best) :: _ => some (sub, best)
  | [] => none

/-- The error for an unknown long option: the most similar option of the command is
suggested, or at the top level the most similar one of a subcommand named later. The usage
line shows the options given, the suggested one of the command included. -/
def unknownLong (r : Reading) (name : String) (later : List String) : Exit :=
  let given := settledGiven r
  let arg := "--" ++ name
  match (suggestions name (r.scope.accepted.map (·.long))).getLast? with
  | some best =>
    let id := ((r.scope.accepted.find? (·.long == best)).map (·.id)).getD best
    let given := if given.contains id then given else given ++ [id]
    unexpectedArgument arg ["a similar argument exists: '--" ++ best ++ "'"]
      (r.scope.givenUsage given)
  | none =>
    let tips := match r.sub with
      | none => (laterSuggestion name later).toList.map fun (sub, best) =>
          "'" ++ sub ++ " --" ++ best ++ "' exists"
      | some _ => []
    unexpectedArgument arg tips (r.scope.givenUsage given)

/-- Reads a long option `--name` or `--name=value`; `later` are the arguments after it. -/
def readLong (r : Reading) (arg : String) (later : List String) : Except Exit Reading :=
  let body := String.ofList (arg.toList.drop 2)
  let (name, inline) := match body.splitOn "=" with
    | [n] => (n, none)
    | n :: rest => (n, some ("=".intercalate rest))
    | [] => (body, none)
  match r.scope.accepted.find? (·.long == name) with
  | none => .error (unknownLong r name later)
  | some o =>
    if o.takesValue then
      match inline with
      | some v => react r o (some v)
      | none => await r o
    else
      match inline with
      | some v =>
        let given := r.current.order
        let given := if given.contains o.id then given else given ++ [o.id]
        .error (usageError (errorWithUsage ("unexpected value '" ++ v ++ "' for '" ++
          o.display ++ "' found; no more were expected") [] (r.scope.givenUsage given)))
      | none => takeFlag r o true

/-- Reads a cluster of short options: flags in a row, and a value-taking option last, with
its value attached (after an optional `=`) or awaited. -/
def readShorts (r : Reading) : List Char → Except Exit Reading
  | [] => .ok r
  | c :: rest =>
    match r.scope.accepted.find? (·.short == some c) with
    | none => .error (unexpectedArgument ("-" ++ String.singleton c) [] r.scope.usage)
    | some o =>
      if o.takesValue then
        match rest with
        | [] => await r o
        | '=' :: value => react r o (some (String.ofList value))
        | value => react r o (some (String.ofList value))
      else do
        let r ← takeFlag r o false
        readShorts r rest

/-- The help asked for by `help` and the names after it. -/
def helpFor : List String → Exit
  | [] => printed (rootHelp true)
  | name :: rest =>
    if name = "help" then
      match rest with
      | [] => printed helpCommandHelp
      | more :: _ => usageError ("error: unrecognized subcommand '" ++ more ++
          "'\n\nUsage: tessera help [COMMAND]...\n")
    else match subcommand? name with
      | none => usageError (errorWithUsage ("unrecognized subcommand '" ++ name ++ "'") []
          rootUsage)
      | some s =>
        match rest with
        | [] => printed (s.help true)
        | more :: _ => usageError (errorWithUsage ("unrecognized subcommand '" ++ more ++ "'")
            [] s.usage)

/-- Reads a word that is neither an option, a value nor a subcommand: an error. -/
def readWord (r : Reading) (word : String) : Exit :=
  match r.sub with
  | some (s, _) => unexpectedArgument word [] s.usage
  | none =>
    if r.raw && subcommandNames.contains word then
      unexpectedArgument ("-- " ++ word)
        ["subcommand '" ++ word ++ "' exists; to use it, remove the '--' before it"] rootUsage
    else unrecognizedSubcommand word

/-- Reads one argument; `later` are those after it. An option awaiting its value takes any
word that does not look like an option, even after `--` or when it names a subcommand.
Otherwise, at the top level, a subcommand's name starts the subcommand; `help` reads the rest
as names. -/
def readArgument (r : Reading) (arg : String) (later : List String) : Except Exit Reading :=
  if r.raw then
    match r.pending with
    | some ⟨o, none⟩ => .ok { r with pending := some ⟨o, some arg⟩ }
    | _ => .error (readWord r arg)
  else if arg = "--" then .ok { r with raw := true }
  else if arg.startsWith "--" then readLong r arg later
  else if looksLikeOption arg then readShorts r (arg.toList.drop 1)
  else
    match r.pending with
    | some ⟨o, none⟩ => .ok { r with pending := some ⟨o, some arg⟩ }
    | _ =>
      if r.sub.isNone && subcommandNames.contains arg then
        if arg = "help" then .error (helpFor later)
        else match subcommand? arg with
          | some s => .ok { r with sub := some (s, {}), rootPending := r.pending, pending := none }
          | none => .error (readWord r arg)
      else .error (readWord r arg)

/-- Reads the arguments in order. -/
def readAll (r : Reading) : List String → Except Exit Reading
  | [] => .ok r
  | arg :: rest => do
    let r ← readArgument r arg rest
    readAll r rest

/-- The usage line of a check error: the subcommand, its required options, and the options
given, minus those left out. -/
def checkedUsage (s : Subcommand) (m : Matches) (leaveOut : List String) : String :=
  let named := s.required ++ m.order.filter fun id => !s.required.contains id &&
    !leaveOut.contains id
  let shown := named.filterMap fun id => s.accepted.find? (·.id == id)
  "tessera " ++ s.name ++ String.join (shown.map (" " ++ ·.display))

/-- Checks conflicts and required options of a subcommand. -/
def checkSubcommand (s : Subcommand) (m : Matches) : Except Exit Unit := do
  if s.name = "generate" && m.has "output" && m.has "stdout" then
    let firstGiven := (m.order.filter fun id => id = "output" || id = "stdout").headD "output"
    let other := if firstGiven = "output" then "stdout" else "output"
    let displayOf (id : String) := ((s.accepted.find? (·.id == id)).map (·.display)).getD id
    throw (usageError (errorWithUsage ("the argument '" ++ displayOf firstGiven ++
      "' cannot be used with '" ++ displayOf other ++ "'") [] (checkedUsage s m [other])))
  let missing := s.required.filter fun id => !m.has id
  unless missing.isEmpty do
    let shown := missing.filterMap fun id => (s.accepted.find? (·.id == id)).map (·.display)
    throw (usageError (errorWithUsage ("the following required arguments were not provided:" ++
      String.join (shown.map ("\n  " ++ ·))) [] (checkedUsage s m [])))

/-- The request a subcommand's options make. -/
def commandOf (s : Subcommand) (m : Matches) : Command :=
  match s.name with
  | "init" => .init (m.flag "force")
  | "summary" => .summary (m.value? "input") (m.flag "json")
  | "generate" =>
    .generate (((m.value? "target").bind Target.ofName?).getD .prisma) (m.value? "input")
      (m.value? "base") (m.value? "output") (m.flag "stdout")
  | _ => .validate (m.value? "input")

/-- Reads a command line (without the program name). The subcommand is checked before the
program options left awaiting a value are settled. -/
def parseArgs (args : List String) : Except Exit Invocation := do
  let r ← readAll {} args
  let r ← settle r
  match r.sub with
  | none =>
    if r.root.order.isEmpty then throw { code := 2, stderr := rootHelp false }
    else throw (usageError ("error: 'tessera' requires a subcommand but one was not provided\n" ++
      "  [subcommands: " ++ ", ".intercalate subcommandNames ++ "]\n\nUsage: " ++ rootUsage ++
      "\n\n" ++ moreInformation))
  | some (s, m) =>
    checkSubcommand s m
    let top ← settle { r with sub := none, pending := r.rootPending }
    let pick (id : String) := (m.value? id).orElse fun _ => top.root.value? id
    pure { config := pick "config"
           verbose := m.flag "verbose" || top.root.flag "verbose"
           noColor := m.flag "no_color" || top.root.flag "no_color"
           command := commandOf s m }

end Cli

end SchemaNorm
