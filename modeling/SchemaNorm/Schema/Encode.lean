import SchemaNorm.Schema
import SchemaNorm.Graph.Encode

/-!
Writing normalized schemas as JSON: snake-case field names in declaration order, every field
present, relations tagged by a leading `kind` member (`one` or `many`).
-/

namespace SchemaNorm

/-- A column as JSON. -/
def Column.toJson (c : Column) : Json :=
  .obj [("alias", .str c.aliasName), ("canonical_name", .str c.canonicalName),
    ("type", .str c.type.tag), ("is_nullable", .bool c.isNullable),
    ("has_default", .bool c.hasDefault),
    ("default_value", Json.ofOption DefaultValue.toJson c.defaultValue),
    ("is_primary", .bool c.isPrimary), ("is_unique", .bool c.isUnique),
    ("is_array", .bool c.isArray), ("is_updated_at", .bool c.isUpdatedAt),
    ("has_generated_id", .bool c.hasGeneratedId), ("enum_name", Json.ofOption .str c.enumName),
    ("length_hint", Json.ofOption Json.ofNat c.lengthHint)]

/-- A relation as JSON, its kind first. -/
def Relation.toJson : Relation → Json
  | .one r => .obj [("kind", .str "one"), ("declared_name", .str r.declaredName),
      ("alias", .str r.aliasName), ("relation_name", Json.ofOption .str r.relationName),
      ("source_model", .str r.sourceModel), ("reference_model", .str r.referenceModel),
      ("source_fields", Json.ofStrings r.sourceFields),
      ("reference_fields", Json.ofStrings r.referenceFields),
      ("is_optional", .bool r.isOptional), ("direction", .str r.direction.tag)]
  | .many r => .obj [("kind", .str "many"), ("declared_name", .str r.declaredName),
      ("source_model", .str r.sourceModel), ("reference_model", .str r.referenceModel),
      ("direction", .str r.direction.tag)]

/-- An index as JSON. -/
def Index.toJson (i : Index) : Json :=
  .obj [("kind", .str i.kind.tag), ("name", .str i.name), ("fields", Json.ofStrings i.fields)]

/-- A model as JSON. -/
def Model.toJson (m : Model) : Json :=
  .obj [("canonical_name", .str m.canonicalName), ("binding", .str m.binding),
    ("columns", .arr (m.columns.map Column.toJson)),
    ("relations", .arr (m.relations.map Relation.toJson)),
    ("indexes", .arr (m.indexes.map Index.toJson))]

/-- An enum as JSON. -/
def Enumeration.toJson (e : Enumeration) : Json :=
  .obj [("alias", .str e.aliasName), ("canonical_name", .str e.canonicalName),
    ("values", Json.ofStrings e.values)]

/-- A location as JSON. -/
def Location.toJson (l : Location) : Json :=
  .obj [("table", Json.ofOption .str l.table), ("column", Json.ofOption .str l.column),
    ("member", Json.ofOption .str l.member)]

/-- A warning as JSON. -/
def Warning.toJson (w : Warning) : Json :=
  .obj [("message", .str w.message), ("location", Json.ofOption Location.toJson w.location),
    ("kind", .str w.kindTag)]

/-- The members that identify a schema: everything but the summary. -/
def Schema.contentFields (s : Schema) : List (String × Json) :=
  [("models", .arr (s.models.map Model.toJson)), ("enums", .arr (s.enums.map Enumeration.toJson)),
   ("relations", .arr (s.relations.map Relation.toJson)),
   ("warnings", .arr (s.warnings.map Warning.toJson))]

/-- A schema as JSON, summary included. -/
def Schema.toJson (s : Schema) : Json := .obj (s.contentFields ++ [("summary", .str s.summary)])

end SchemaNorm
