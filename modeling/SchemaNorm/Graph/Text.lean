import SchemaNorm.Graph.Decode
import SchemaNorm.Yaml.Reader
import SchemaNorm.Yaml.Decode
import SchemaNorm.Files.Path

/-!
Snapshots as text. A snapshot is written in JSON or in YAML; a file is JSON when its
extension is `json` in any letter case, and YAML otherwise.

A YAML snapshot is a mapping with optional `version` and `entries`, other keys being
skipped unread; an empty document, or a null one, is the empty snapshot. The version is read
as text: a scalar gives its text as written (`1.0` stays `1.0`), a null gives no version.
Null entries are no entries. An entry names its kind in its `kind` member (or its first item),
read as text, so that any scalar but null names a kind; the rest of the entry is read as
self-describing data, plain scalars typed by their text, and decoded as in JSON.
-/

namespace SchemaNorm

/-- The text format of a snapshot. -/
inductive SnapshotFormat where
  | yaml
  | json
  deriving DecidableEq, Repr

namespace SnapshotFormat

/-- The format of a snapshot file, from its path. -/
def ofPath (p : String) : SnapshotFormat :=
  match Path.extension? p with
  | some ext => if ext.toLower = "json" then .json else .yaml
  | none => .yaml

/-- The format's name. -/
def name : SnapshotFormat → String
  | .yaml => "yaml"
  | .json => "json"

end SnapshotFormat

namespace Graph

/-- An entry of a YAML snapshot: the kind's name read as text, the rest as data. -/
def entryOfYaml? : Yaml.Node → Option Entry
  | .map members => do
    let keyed ← members.mapM fun (k, v) => k.fieldKey?.map (·, v)
    match keyed.filter (·.1 == .name "kind") with
    | [(_, kind)] =>
      let tag ← kind.text?
      let rest ← (keyed.filter (·.1 != .name "kind")).mapM fun (k, v) => v.toDatum?.map (k, ·)
      Entry.ofTagged? tag (.map rest)
    | _ => none
  | .seq (kind :: items) => do
    let tag ← kind.text?
    let rest ← items.mapM Yaml.Node.toDatum?
    Entry.ofTagged? tag (.seq rest)
  | _ => none

/-- A snapshot from a YAML node. -/
def ofYamlNode? (n : Yaml.Node) : Option Graph := do
  let f ← Yaml.Fields.of? n
  let version ← f.withDefault "version" Yaml.Node.optionalText? none
  let entries ← f.withDefault "entries" (fun e => e.items? >>= (·.mapM entryOfYaml?)) []
  pure { version, entries }

/-- A snapshot from YAML text. -/
def parseYaml? (text : String) : Option Graph :=
  match Yaml.parse text with
  | .ok none => some {}
  | .ok (some n) => ofYamlNode? n
  | .error _ => none

/-- A snapshot from text in the given format; the error names the format. -/
def parseText (format : SnapshotFormat) (text : String) : Except String Graph :=
  match format with
  | .yaml => match parseYaml? text with
    | some g => .ok g
    | none => .error "Invalid YAML schema graph"
  | .json => match parseJson? text with
    | some g => .ok g
    | none => .error "Invalid JSON schema graph"

end Graph

end SchemaNorm
