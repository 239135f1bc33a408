import SchemaNorm.Graph
import SchemaNorm.Json.Value

/-!
Writing snapshots as JSON, with the export's field names in declaration order, every field
present (absent optional values as `null`), and the entry kind as a leading `kind` member.
-/

namespace SchemaNorm

/-- A default value as JSON: a Boolean, an integer, a double in the data layout, or a string. -/
def DefaultValue.toJson : DefaultValue → Json
  | .bool b => .bool b
  | .int i => Json.ofInt i
  | .float x => Json.ofBinary64 x
  | .text s => .str s

/-- A column descriptor as JSON. -/
def ColumnDescriptor.toJson (c : ColumnDescriptor) : Json :=
  .obj [("alias", .str c.aliasName), ("name", .str c.name), ("storage", .str c.storage.tag),
    ("sql_type", .str c.sqlType), ("not_null", .bool c.notNull),
    ("has_default", .bool c.hasDefault), ("default_value", Json.ofOption DefaultValue.toJson c.defaultValue),
    ("primary", .bool c.primary), ("unique", .bool c.unique),
    ("enum_name", Json.ofOption .str c.enumName), ("length", Json.ofOption Json.ofNat c.length),
    ("updated_at", .bool c.updatedAt)]

/-- A foreign key as JSON. -/
def ForeignKey.toJson (f : ForeignKey) : Json :=
  .obj [("columns", Json.ofStrings f.columns), ("foreign_table", .str f.foreignTable),
    ("foreign_columns", Json.ofStrings f.foreignColumns)]

/-- An index declaration as JSON. -/
def IndexDeclaration.toJson (i : IndexDeclaration) : Json :=
  .obj [("name", .str i.name), ("columns", Json.ofStrings i.columns),
    ("unique", Json.ofOption .bool i.unique), ("kind", Json.ofOption .str i.kind)]

/-- The fields of a table declaration. -/
def TableDeclaration.fieldsJson (t : TableDeclaration) : List (String × Json) :=
  [("binding", .str t.binding), ("name", .str t.name),
   ("columns", .arr (t.columns.map ColumnDescriptor.toJson)),
   ("indexes", Json.ofOption (fun is => .arr (is.map IndexDeclaration.toJson)) t.indexes),
   ("foreign_keys", .arr (t.foreignKeys.map ForeignKey.toJson))]

/-- A table declaration as JSON. -/
def TableDeclaration.toJson (t : TableDeclaration) : Json := .obj t.fieldsJson

/-- Relation settings as JSON. -/
def RelationConfig.toJson (c : RelationConfig) : Json :=
  .obj [("fields", Json.ofStrings c.fields), ("references", Json.ofStrings c.references),
    ("optional", Json.ofOption .bool c.optional),
    ("relation_name", Json.ofOption .str c.relationName)]

/-- A relation descriptor as JSON. -/
def RelationDescriptor.toJson (d : RelationDescriptor) : Json :=
  .obj [("name", .str d.name), ("cardinality", .str d.cardinality.tag),
    ("source_table", .str d.sourceTable), ("referenced_table", .str d.referencedTable),
    ("config", Json.ofOption RelationConfig.toJson d.config)]

/-- An entry as JSON, its kind first. -/
def Entry.toJson : Entry → Json
  | .enum e => .obj [("kind", .str "enum"), ("binding", .str e.binding), ("name", .str e.name),
      ("values", Json.ofStrings e.values)]
  | .table t => .obj (("kind", .str "table") :: t.fieldsJson)
  | .relations s => .obj [("kind", .str "relations"), ("binding", .str s.binding),
      ("table", .str s.table), ("relations", .arr (s.relations.map RelationDescriptor.toJson))]
  | .other => .obj [("kind", .str "other")]

/-- A snapshot as JSON. -/
def Graph.toJson (g : Graph) : Json :=
  .obj [("version", Json.ofOption .str g.version), ("entries", .arr (g.entries.map Entry.toJson))]

end SchemaNorm
