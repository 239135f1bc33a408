import SchemaNorm.Relations
import SchemaNorm.Yaml.Reader
import SchemaNorm.Yaml.Decode
import SchemaNorm.Yaml.Writer
import SchemaNorm.Json.Value

/-!
The project configuration, a YAML file. It names the configuration version (required), the
snapshot to read, an optional prelude for the Prisma output, where the generators write, and
what to do with relations whose fields cannot be resolved.

Every setting is text as written: a scalar gives its text unchanged (`version: 1.0` is the
version `1.0`), and null is no text. The file is a mapping that may give the settings in any
order and may hold others, which are ignored; the outputs are a mapping too, or null for the
default paths, and the relation policy is a variant name.
-/

namespace SchemaNorm

/-- The configuration file's default path. -/
def configFile : String := ".tessera.yaml"

/-- The snapshot read when the configuration names none. -/
def defaultGraphFile : String := "schema/graph.yaml"

/-- Where the generators write. -/
structure OutputPaths where
  prisma : String := "generated/schema.prisma"
  types : String := "generated/schema.types.ts"
  deriving DecidableEq, Repr

/-- The project configuration. -/
structure Config where
  version : String := "1.0"
  input : String := defaultGraphFile
  basePrelude : Option String := none
  outputs : OutputPaths := {}
  unresolvedRelations : RelationPolicy := .warn
  deriving DecidableEq, Repr

namespace OutputPaths

/-- The output paths from a YAML node. -/
def ofYaml? (n : Yaml.Node) : Option OutputPaths := do
  let f ← Yaml.Fields.of? n
  let d : OutputPaths := {}
  let prisma ← f.withDefault "prisma" Yaml.Node.text? d.prisma
  let types ← f.withDefault "types" Yaml.Node.text? d.types
  pure { prisma, types }

/-- The output paths as JSON. -/
def toJson (o : OutputPaths) : Json := .obj [("prisma", .str o.prisma), ("types", .str o.types)]

end OutputPaths

namespace Config

/-- A relation policy from a YAML variant name: exactly `warn` or `error`. -/
def policyOfYaml? (n : Yaml.Node) : Option RelationPolicy :=
  n.variantName? >>= RelationPolicy.ofTag?

/-- The configuration a YAML node gives. -/
def ofYaml? (n : Yaml.Node) : Option Config := do
  let f ← Yaml.Fields.of? n
  let d : Config := {}
  let version ← f.required "version" Yaml.Node.text?
  let input ← f.withDefault "input" Yaml.Node.text? d.input
  let basePrelude ← f.withDefault "base_prelude" Yaml.Node.optionalText? none
  let outputs ← f.withDefault "outputs" OutputPaths.ofYaml? {}
  let unresolvedRelations ← f.withDefault "unresolved_relations" policyOfYaml? .warn
  pure { version, input, basePrelude, outputs, unresolvedRelations }

/-- Reads a configuration from YAML text. -/
def parse (text : String) : Except String Config :=
  match Yaml.parse text with
  | .ok (some n) =>
    match ofYaml? n with
    | some c => .ok c
    | none => .error "Failed to parse config file"
  | _ => .error "Failed to parse config file"

/-- Checks that the version and the snapshot path are given. -/
def validate (c : Config) : Except String Unit :=
  if c.version.isEmpty then .error "Config file version is not specified"
  else if c.input.isEmpty then .error "Input snapshot path is not specified"
  else .ok ()

/-- Reads and checks a configuration. -/
def load (text : String) : Except String Config := do
  let c ← parse text
  validate c
  pure c

/-- The configuration as YAML, one setting a line in field order. -/
def toYaml (c : Config) : String :=
  "version: " ++ Yaml.scalarText 0 c.version ++ "\n" ++
  "input: " ++ Yaml.scalarText 0 c.input ++ "\n" ++
  "base_prelude: " ++ (match c.basePrelude with
    | some p => Yaml.scalarText 0 p
    | none => "null") ++ "\n" ++
  "outputs:\n" ++
  "  prisma: " ++ Yaml.scalarText 2 c.outputs.prisma ++ "\n" ++
  "  types: " ++ Yaml.scalarText 2 c.outputs.types ++ "\n" ++
  "unresolved_relations: " ++ c.unresolvedRelations.tag ++ "\n"

/-- The configuration as JSON. -/
def toJson (c : Config) : Json :=
  .obj [("version", .str c.version), ("input", .str c.input),
    ("base_prelude", Json.ofOption .str c.basePrelude), ("outputs", c.outputs.toJson),
    ("unresolved_relations", .str c.unresolvedRelations.tag)]

end Config

end SchemaNorm
