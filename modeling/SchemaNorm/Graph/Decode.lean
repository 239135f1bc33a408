import SchemaNorm.Graph
import SchemaNorm.Datum
import SchemaNorm.Json.Reader

/-!
Reading snapshots from decoded values. Field names are the export's snake-case names. An
entry names its kind in a `kind` member (or in the first item of a sequence); the other
members are the declaration's fields, and an unknown kind makes a placeholder whatever else
the entry holds. A default is untagged: a Boolean, then an integer that fits 64 signed bits,
then any other number as a double, then a text.
-/

namespace SchemaNorm

namespace DefaultValue

/-- A default value: Booleans, integers of 64 signed bits, other numbers as doubles, texts. -/
def decode? : Datum → Option DefaultValue
  | .bool b => some (.bool b)
  | .num (.nat n) => some (if n < Nat.pow 2 63 then .int n else .float (Binary64.ofNat n))
  | .num (.negInt i) => some (.int i)
  | .num (.float x) => some (.float x)
  | .str s => some (.text s)
  | _ => none

end DefaultValue

namespace ColumnDescriptor

/-- The exported field names, in declaration order. -/
def fieldNames : List String :=
  ["alias", "name", "storage", "sql_type", "not_null", "has_default", "default_value",
   "primary", "unique", "enum_name", "length", "updated_at"]

/-- A column descriptor; `alias`, `name` and `storage` are required. -/
def decode? (d : Datum) : Option ColumnDescriptor := do
  let r ← Record.of? fieldNames d
  let aliasName ← r.required "alias" Datum.asString?
  let name ← r.required "name" Datum.asString?
  let storage ← r.required "storage" fun d => d.asString?.map StorageKind.ofTag
  let sqlType ← r.withDefault "sql_type" Datum.asString? ""
  let notNull ← r.withDefault "not_null" Datum.asBool? false
  let hasDefault ← r.withDefault "has_default" Datum.asBool? false
  let defaultValue ← r.optionalDefault "default_value" DefaultValue.decode?
  let primary ← r.withDefault "primary" Datum.asBool? false
  let unique ← r.withDefault "unique" Datum.asBool? false
  let enumName ← r.optionalDefault "enum_name" Datum.asString?
  let length ← r.optionalDefault "length" Datum.asU32?
  let updatedAt ← r.withDefault "updated_at" Datum.asBool? false
  pure { aliasName, name, storage, sqlType, notNull, hasDefault, defaultValue, primary, unique,
         enumName, length, updatedAt }

end ColumnDescriptor

namespace ForeignKey

/-- A foreign key; all three fields are required. -/
def decode? (d : Datum) : Option ForeignKey := do
  let r ← Record.of? ["columns", "foreign_table", "foreign_columns"] d
  let columns ← r.required "columns" Datum.asStrings?
  let foreignTable ← r.required "foreign_table" Datum.asString?
  let foreignColumns ← r.required "foreign_columns" Datum.asStrings?
  pure { columns, foreignTable, foreignColumns }

end ForeignKey

namespace IndexDeclaration

/-- An index declaration; only `name` is required. -/
def decode? (d : Datum) : Option IndexDeclaration := do
  let r ← Record.of? ["name", "columns", "unique", "kind"] d
  let name ← r.required "name" Datum.asString?
  let columns ← r.withDefault "columns" Datum.asStrings? []
  let unique ← r.optionalDefault "unique" Datum.asBool?
  let kind ← r.optionalDefault "kind" Datum.asString?
  pure { name, columns, unique, kind }

end IndexDeclaration

namespace TableDeclaration

/-- A table declaration; `binding` and `name` are required. -/
def decode? (d : Datum) : Option TableDeclaration := do
  let r ← Record.of? ["binding", "name", "columns", "indexes", "foreign_keys"] d
  let binding ← r.required "binding" Datum.asString?
  let name ← r.required "name" Datum.asString?
  let columns ← r.withDefault "columns" (Datum.asList? ColumnDescriptor.decode?) []
  let indexes ← r.optionalDefault "indexes" (Datum.asList? IndexDeclaration.decode?)
  let foreignKeys ← r.withDefault "foreign_keys" (Datum.asList? ForeignKey.decode?) []
  pure { binding, name, columns, indexes, foreignKeys }

end TableDeclaration

namespace EnumDeclaration

/-- An enum declaration; `binding` and `name` are required. -/
def decode? (d : Datum) : Option EnumDeclaration := do
  let r ← Record.of? ["binding", "name", "values"] d
  let binding ← r.required "binding" Datum.asString?
  let name ← r.required "name" Datum.asString?
  let values ← r.withDefault "values" Datum.asStrings? []
  pure { binding, name, values }

end EnumDeclaration

namespace RelationConfig

/-- Relation settings; every field has a default. -/
def decode? (d : Datum) : Option RelationConfig := do
  let r ← Record.of? ["fields", "references", "optional", "relation_name"] d
  let fields ← r.withDefault "fields" Datum.asStrings? []
  let references ← r.withDefault "references" Datum.asStrings? []
  let optional ← r.optionalDefault "optional" Datum.asBool?
  let relationName ← r.optionalDefault "relation_name" Datum.asString?
  pure { fields, references, optional, relationName }

end RelationConfig

namespace RelationDescriptor

/-- A relation descriptor; `name`, `cardinality` and `referenced_table` are required. -/
def decode? (d : Datum) : Option RelationDescriptor := do
  let r ← Record.of? ["name", "cardinality", "source_table", "referenced_table", "config"] d
  let name ← r.required "name" Datum.asString?
  let cardinality ← r.required "cardinality" fun d => d.asString?.map Cardinality.ofTag
  let sourceTable ← r.withDefault "source_table" Datum.asString? ""
  let referencedTable ← r.required "referenced_table" Datum.asString?
  let config ← r.optionalDefault "config" RelationConfig.decode?
  pure { name, cardinality, sourceTable, referencedTable, config }

end RelationDescriptor

namespace RelationSet

/-- A relation set; `binding` and `table` are required. -/
def decode? (d : Datum) : Option RelationSet := do
  let r ← Record.of? ["binding", "table", "relations"] d
  let binding ← r.required "binding" Datum.asString?
  let table ← r.required "table" Datum.asString?
  let relations ← r.withDefault "relations" (Datum.asList? RelationDescriptor.decode?) []
  pure { binding, table, relations }

end RelationSet

namespace Entry

/-- The declaration of the kind a tag names, read from the remaining fields. -/
def ofTagged? (tag : String) (rest : Datum) : Option Entry :=
  if tag = "enum" then (EnumDeclaration.decode? rest).map .enum
  else if tag = "table" then (TableDeclaration.decode? rest).map .table
  else if tag = "relations" then (RelationSet.decode? rest).map .relations
  else some .other

/-- An entry: the `kind` member must be given once, as a string. -/
def decode? : Datum → Option Entry
  | .map members =>
    match members.filter (·.1 == .name "kind") with
    | [(_, .str tag)] => ofTagged? tag (.map (members.filter (·.1 != .name "kind")))
    | _ => none
  | .seq (.str tag :: items) => ofTagged? tag (.seq items)
  | _ => none

end Entry

namespace Graph

/-- How deeply a snapshot's JSON may nest. -/
def nestingLimit : Nat := 127

/-- The entries of a snapshot, each read with all its numbers. -/
def entriesOfJson? : Json → Option (List Entry)
  | .arr items => items.mapM fun j => j.toDatum? >>= Entry.decode?
  | _ => none

/-- The version of a snapshot: a string, or `null` for none. -/
def versionOfJson? : Json → Option (Option String)
  | .null => some none
  | .str s => some (some s)
  | _ => none

/-- A snapshot from a JSON value: an object with optional `version` and `entries`, or a
sequence giving them in that order. Members other than these two are skipped unread, so only
their syntax matters; the values read may nest `nestingLimit` levels deep, the snapshot's own
level included. -/
def ofJson? (j : Json) : Option Graph :=
  match j with
  | .obj members =>
    if Record.hasRepeat ["version", "entries"] (members.map (·.1)) then none
    else do
      let version ← match members.lookup "version" with
        | some v => versionOfJson? v
        | none => some none
      let entries ← match members.lookup "entries" with
        | some v => if nestingLimit < v.depth + 1 then none else entriesOfJson? v
        | none => some []
      pure { version, entries }
  | .arr [] => some {}
  | .arr [v] => do
    let version ← versionOfJson? v
    pure { version }
  | .arr [v, e] => do
    let version ← versionOfJson? v
    let entries ← if nestingLimit < j.depth then none else entriesOfJson? e
    pure { version, entries }
  | _ => none

/-- A snapshot from JSON text. -/
def parseJson? (text : String) : Option Graph := Json.parse? text >>= ofJson?

end Graph

end SchemaNorm
