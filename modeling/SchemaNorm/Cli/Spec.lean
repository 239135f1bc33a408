import SchemaNorm.Binary64
/-!
The command line's grammar and its texts: the options of the program and of each
subcommand, the help screens in their short (`-h`) and long (`--help`) forms, the version
line, and the usage errors.

Global options (`--config`, `--verbose`, `--no-color`) are accepted before and after the
subcommand and are listed in every help screen, merged with the subcommand's own options by
their position in each list, ties broken by the long name.
-/

namespace SchemaNorm

namespace Cli

/-- The program's name. -/
def programName : String := "tessera"

/-- The program's version. -/
def version : String := "0.1.0"

/-- One option: its identity, short and long names, the name of its value when it takes one,
and its one-line description. -/
structure OptionSpec where
  id : String
  short : Option Char
  long : String
  valueName : Option String := none
  help : String
  deriving DecidableEq, Repr

namespace OptionSpec

/-- Whether the option takes a value. -/
def takesValue (o : OptionSpec) : Bool := o.valueName.isSome

/-- The option as error messages name it: `--target <TARGET>` or `--json`. -/
def display (o : OptionSpec) : String :=
  "--" ++ o.long ++ (match o.valueName with
    | some v => " <" ++ v ++ ">"
    | none => "")

/-- The option as help screens list it: `-c, --config <FILE>` or `    --no-color`. -/
def helpSpec (o : OptionSpec) : String :=
  (match o.short with
    | some c => "-" ++ String.singleton c ++ ", "
    | none => "    ") ++ o.display

end OptionSpec

/-- The options every command accepts. -/
def globalOptions : List OptionSpec :=
  [{ id := "config", short := some 'c', long := "config", valueName := some "FILE"
     help := "Path to configuration file" },
   { id := "verbose", short := some 'v', long := "verbose", help := "Enable verbose output" },
   { id := "no_color", short := none, long := "no-color", help := "Disable colored output" }]

/-- The help option, described for the short or the long screen. -/
def helpOption (long : Bool) : OptionSpec :=
  { id := "help", short := some 'h', long := "help"
    help := if long then "Print help (see a summary with '-h')"
      else "Print help (see more with '--help')" }

/-- The version option. -/
def versionOption : OptionSpec :=
  { id := "version", short := some 'V', long := "version", help := "Print version" }

/-- A subcommand: its name, its one-line and full descriptions, its own options, and the
options it requires. -/
structure Subcommand where
  name : String
  about : String
  longAbout : String
  options : List OptionSpec
  required : List String := []
  deriving Repr

/-- The options of `init`. -/
def initCommand : Subcommand :=
  { name := "init"
    about := "Initialize a new project"
    longAbout := "Initialize a new project\n\n" ++
      "Creates the configuration file and an example schema-graph snapshot.\n\n" ++
      "EXAMPLES: # Initialize in the current directory tessera init\n\n" ++
      "# Overwrite an existing configuration tessera init --force"
    options := [{ id := "force", short := some 'f', long := "force"
                  help := "Force initialization even if config exists" }] }

/-- The snapshot option shared by the commands that read one. -/
def inputOption : OptionSpec :=
  { id := "input", short := some 'i', long := "input", valueName := some "FILE"
    help := "Schema-graph snapshot (YAML or JSON)" }

/-- The options of `summary`. -/
def summaryCommand : Subcommand :=
  { name := "summary"
    about := "Normalize the schema graph and print its summary"
    longAbout := "Normalize the schema graph and print its summary\n\n" ++
      "EXAMPLES: # Summarize the configured snapshot tessera summary\n\n" ++
      "# Dump the normalized IR as JSON tessera summary --json"
    options := [inputOption,
      { id := "json", short := none, long := "json"
        help := "Print the normalized IR as JSON instead of the summary" }] }

/-- The options of `generate`. -/
def generateCommand : Subcommand :=
  { name := "generate"
    about := "Generate a schema description or type definitions"
    longAbout := "Generate a schema description or type definitions\n\n" ++
      "EXAMPLES: # Write the Prisma schema to the configured output tessera generate " ++
      "--target prisma\n\n" ++
      "# Use a custom prelude tessera generate --target prisma --base base.prisma\n\n" ++
      "# Print type definitions to stdout tessera generate --target types --stdout"
    options := [
      { id := "target", short := some 't', long := "target", valueName := some "TARGET"
        help := "Generation target (prisma, types)" },
      inputOption,
      { id := "base", short := some 'b', long := "base", valueName := some "FILE"
        help := "Base prelude placed at the top of the Prisma schema" },
      { id := "output", short := some 'o', long := "output", valueName := some "FILE"
        help := "Output file (defaults to the configured output)" },
      { id := "stdout", short := none, long := "stdout"
        help := "Print the generated document instead of writing a file" }]
    required := ["target"] }

/-- The options of `validate`. -/
def validateCommand : Subcommand :=
  { name := "validate"
    about := "Validate the normalized schema"
    longAbout := "Validate the normalized schema\n\n" ++
      "Checks relation fields, index fields and enum references of the normalized schema.\n\n" ++
      "EXAMPLES: # Validate the configured snapshot tessera validate\n\n" ++
      "# Validate a specific snapshot tessera validate --input ./exported/graph.json"
    options := [inputOption] }

/-- The subcommands, in the order help lists them. -/
def subcommands : List Subcommand :=
  [initCommand, summaryCommand, generateCommand, validateCommand]

/-- The description of the `help` subcommand. -/
def helpAbout : String := "Print this message or the help of the given subcommand(s)"

/-- Every subcommand name, `help` last. -/
def subcommandNames : List String := subcommands.map (·.name) ++ ["help"]

/-- The subcommand with the given name. -/
def subcommand? (name : String) : Option Subcommand := subcommands.find? (·.name == name)

/-- A subcommand's options in help order: its own and the global ones ordered by their
position in their list, ties broken by long name; then help and version. -/
def Subcommand.listed (s : Subcommand) (long : Bool) : List OptionSpec :=
  let indexed (os : List OptionSpec) := os.zip (List.range os.length)
  let merged := (indexed globalOptions ++ indexed s.options).mergeSort fun (a, i) (b, j) =>
    i < j || (i == j && decide (a.long ≤ b.long))
  merged.map (·.1) ++ [helpOption long, versionOption]

/-- The options a subcommand accepts, in the order they are matched and suggested: its
own, the global ones, then help and version. -/
def Subcommand.accepted (s : Subcommand) : List OptionSpec :=
  s.options ++ globalOptions ++ [helpOption false, versionOption]

/-- The options accepted before a subcommand. -/
def rootAccepted : List OptionSpec := globalOptions ++ [helpOption false, versionOption]

/-- Pads text with spaces to a width. -/
def padRight (s : String) (width : Nat) : String :=
  s ++ String.ofList (List.replicate (width - s.length) ' ')

/-- Options in the short form: one line each, descriptions aligned. -/
def shortOptionLines (os : List OptionSpec) : String :=
  let width := os.foldl (fun w o => max w o.helpSpec.length) 0
  String.join (os.map fun o => "  " ++ padRight o.helpSpec width ++ "  " ++ o.help ++ "\n")

/-- Options in the long form: the option on one line, its description indented below, a
blank line between options. -/
def longOptionLines (os : List OptionSpec) : String :=
  "\n".intercalate (os.map fun o => "  " ++ o.helpSpec ++ "\n          " ++ o.help ++ "\n")

/-- The commands section of the program's help. -/
def commandLines : String :=
  let entries := subcommands.map (fun s => (s.name, s.about)) ++ [("help", helpAbout)]
  let width := entries.foldl (fun w e => max w e.1.length) 0
  String.join (entries.map fun (n, a) => "  " ++ padRight n width ++ "  " ++ a ++ "\n")

/-- The program's one-line description. -/
def about : String := "Schema graph normalization CLI tool"

/-- The program's full description. -/
def longAbout : String :=
  "Tessera - Schema Graph Normalizer\n\n" ++
  "Reads a schema-graph snapshot (tables, enums, relation sets) and produces a\n" ++
  "normalized intermediate representation with resolved relations.\n\n" ++
  "Tessera helps you:\n" ++
  "  • Classify storage columns into a closed set of column types\n" ++
  "  • Resolve relation fields, falling back to foreign keys\n" ++
  "  • Render Prisma schemas and TypeScript type definitions\n" ++
  "  • Validate referential integrity of the normalized schema"

/-- The text after the program's help. -/
def afterHelp : String :=
  "GETTING STARTED:\n" ++
  "  1. Initialize a new project:      tessera init\n" ++
  "  2. Export your schema graph:      Edit schema/graph.yaml\n" ++
  "  3. Inspect the normalized schema: tessera summary\n" ++
  "  4. Generate a Prisma schema:      tessera generate --target prisma\n\n" ++
  "For detailed help on each command, use: tessera <command> --help\n"

/-- The program's usage line. -/
def rootUsage : String := "tessera [OPTIONS] <COMMAND>"

/-- A subcommand's usage line. -/
def Subcommand.usage (s : Subcommand) : String :=
  let required := s.accepted.filter (s.required.contains ·.id)
  "tessera " ++ s.name ++ " [OPTIONS]" ++ String.join (required.map (" " ++ ·.display))

/-- The program's help screen. -/
def rootHelp (long : Bool) : String :=
  (if long then longAbout else about) ++ "\n\nUsage: " ++ rootUsage ++ "\n\nCommands:\n" ++
  commandLines ++ "\nOptions:\n" ++
  (if long then longOptionLines (globalOptions ++ [helpOption true, versionOption])
   else shortOptionLines rootAccepted) ++ "\n" ++ afterHelp

/-- A subcommand's help screen. -/
def Subcommand.help (s : Subcommand) (long : Bool) : String :=
  (if long then s.longAbout else s.about) ++ "\n\nUsage: " ++ s.usage ++ "\n\nOptions:\n" ++
  (if long then longOptionLines (s.listed true) else shortOptionLines (s.listed false))

/-- The help screen of the `help` subcommand. -/
def helpCommandHelp : String :=
  helpAbout ++ "\n\nUsage: tessera help [COMMAND]...\n\nArguments:\n" ++
  "  [COMMAND]...\n          Print help for the subcommand(s)\n"

/-- The version line of the program or of a subcommand. -/
def versionLine (sub : Option String) : String :=
  (match sub with
    | some name => programName ++ "-" ++ name
    | none => programName) ++ " " ++ version ++ "\n"

/-- The matches and transpositions of two nonempty strings in the Jaro sense: each
character of `a` is matched with the first unmatched equal character of `b` within half the
longer length, less one; a transposition is half a pair of matched characters out of order. -/
def jaroCounts (a b : List Char) : Nat × Nat :=
  let la := a.length
  let lb := b.length
  let range := max la lb / 2 - 1
  let (aFlags, bFlags) := (List.range la).foldl (fun (af, bf) i =>
    let lo := i - range
    let hi := min lb (i + range + 1)
    let ai := a.getD i ' '
    match (List.range hi).find? (fun j => lo ≤ j && b.getD j ' ' == ai && !bf.getD j false) with
    | some j => (af.set i true, bf.set j true)
    | none => (af, bf)) (List.replicate la false, List.replicate lb false)
  let aMatched := (a.zip aFlags).filterMap fun (c, f) => if f then some c else none
  let bMatched := (b.zip bFlags).filterMap fun (c, f) => if f then some c else none
  (aMatched.length, ((aMatched.zip bMatched).filter fun (x, y) => x != y).length / 2)

/-- The Jaro similarity of two strings in double precision: the mean of the matched share of
each string and the share of matches in order, each step rounded as the machine rounds it. -/
def jaro (a b : List Char) : Binary64 :=
  let la := a.length
  let lb := b.length
  if la = 0 ∧ lb = 0 then Binary64.ofNat 1
  else if la = 0 ∨ lb = 0 then Binary64.ofNat 0
  else
    let (m, t) := jaroCounts a b
    if m = 0 then Binary64.ofNat 0
    else
      let m' := Binary64.ofNat m
      (m' / Binary64.ofNat la + m' / Binary64.ofNat lb + Binary64.ofNat (m - t) / m') /
        Binary64.ofNat 3

/-- The least similarity at which one string is suggested for another, excluded: the double
nearest to `0.7`. -/
def similarityBar : Binary64 := Binary64.round false 7 10 0

/-- Whether two strings are similar enough to suggest one for the other. -/
def similar (typed candidate : String) : Bool :=
  similarityBar.lt (jaro typed.toList candidate.toList)

/-- The candidates similar to what was typed, least similar first; equally similar ones keep
their order. -/
def suggestions (typed : String) (candidates : List String) : List String :=
  let scored := candidates.filterMap fun c =>
    let score := jaro typed.toList c.toList
    if similarityBar.lt score then some (c, score) else none
  (scored.mergeSort fun (_, x) (_, y) => !y.lt x).map (·.1)

/-- The closing line of every usage error. -/
def moreInformation : String := "For more information, try '--help'.\n"

/-- A usage error with a usage line. -/
def errorWithUsage (message : String) (tips : List String) (usage : String) : String :=
  "error: " ++ message ++ "\n\n" ++
  (if tips.isEmpty then "" else String.join (tips.map ("  tip: " ++ · ++ "\n")) ++ "\n") ++
  "Usage: " ++ usage ++ "\n\n" ++ moreInformation

/-- A usage error without a usage line. -/
def errorWithoutUsage (message : String) : String :=
  "error: " ++ message ++ "\n\n" ++ moreInformation

/-- Quotes names for a message: `'a', 'b'`. -/
def quotedList (names : List String) : String := ", ".intercalate (names.map ("'" ++ · ++ "'"))

end Cli

end SchemaNorm
