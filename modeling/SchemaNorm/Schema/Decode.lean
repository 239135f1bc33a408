import SchemaNorm.Schema
import SchemaNorm.Graph.Decode

/-!
Reading normalized schemas from decoded values, as the encoder writes them. Every field is
required except the optional ones, which may be `null` or missing, and the warning list,
which defaults to empty. A variant without data (a column type, a direction, an index kind, a
warning kind) is its name, or a map from its name to `null`.
-/

namespace SchemaNorm

/-- A column type from its tag. -/
def ColumnType.decode? (d : Datum) : Option ColumnType := d.variantName? >>= ColumnType.ofTag?

/-- A direction from `in` or `out`. -/
def Direction.decode? (d : Datum) : Option Direction :=
  match d.variantName? with
  | some "in" => some .inbound
  | some "out" => some .outbound
  | _ => none

/-- An index kind from `unique` or `normal`. -/
def IndexKind.decode? (d : Datum) : Option IndexKind :=
  match d.variantName? with
  | some "unique" => some .unique
  | some "normal" => some .normal
  | _ => none

/-- A column. -/
def Column.decode? (d : Datum) : Option Column := do
  let r ← Record.of? ["alias", "canonical_name", "type", "is_nullable", "has_default",
    "default_value", "is_primary", "is_unique", "is_array", "is_updated_at", "has_generated_id",
    "enum_name", "length_hint"] d
  let aliasName ← r.required "alias" Datum.asString?
  let canonicalName ← r.required "canonical_name" Datum.asString?
  let type ← r.required "type" ColumnType.decode?
  let isNullable ← r.required "is_nullable" Datum.asBool?
  let hasDefault ← r.required "has_default" Datum.asBool?
  let defaultValue ← r.optional "default_value" DefaultValue.decode?
  let isPrimary ← r.required "is_primary" Datum.asBool?
  let isUnique ← r.required "is_unique" Datum.asBool?
  let isArray ← r.required "is_array" Datum.asBool?
  let isUpdatedAt ← r.required "is_updated_at" Datum.asBool?
  let hasGeneratedId ← r.required "has_generated_id" Datum.asBool?
  let enumName ← r.optional "enum_name" Datum.asString?
  let lengthHint ← r.optional "length_hint" Datum.asU32?
  pure { aliasName, canonicalName, type, isNullable, hasDefault, defaultValue, isPrimary, isUnique,
         isArray, isUpdatedAt, hasGeneratedId, enumName, lengthHint }

/-- A one-row relation's fields. -/
def OneRelation.decode? (d : Datum) : Option OneRelation := do
  let r ← Record.of? ["declared_name", "alias", "relation_name", "source_model",
    "reference_model", "source_fields", "reference_fields", "is_optional", "direction"] d
  let declaredName ← r.required "declared_name" Datum.asString?
  let aliasName ← r.required "alias" Datum.asString?
  let relationName ← r.optional "relation_name" Datum.asString?
  let sourceModel ← r.required "source_model" Datum.asString?
  let referenceModel ← r.required "reference_model" Datum.asString?
  let sourceFields ← r.required "source_fields" Datum.asStrings?
  let referenceFields ← r.required "reference_fields" Datum.asStrings?
  let isOptional ← r.required "is_optional" Datum.asBool?
  let direction ← r.required "direction" Direction.decode?
  pure { declaredName, aliasName, relationName, sourceModel, referenceModel, sourceFields,
         referenceFields, isOptional, direction }

/-- A collection relation's fields. -/
def ManyRelation.decode? (d : Datum) : Option ManyRelation := do
  let r ← Record.of? ["declared_name", "source_model", "reference_model", "direction"] d
  let declaredName ← r.required "declared_name" Datum.asString?
  let sourceModel ← r.required "source_model" Datum.asString?
  let referenceModel ← r.required "reference_model" Datum.asString?
  let direction ← r.required "direction" Direction.decode?
  pure { declaredName, sourceModel, referenceModel, direction }

/-- The relation of the kind a tag names. -/
def Relation.ofTagged? (tag : String) (rest : Datum) : Option Relation :=
  if tag = "one" then (OneRelation.decode? rest).map .one
  else if tag = "many" then (ManyRelation.decode? rest).map .many
  else none

/-- A relation: `kind` given once, as `one` or `many`. -/
def Relation.decode? : Datum → Option Relation
  | .map members =>
    match members.filter (·.1 == .name "kind") with
    | [(_, .str tag)] => Relation.ofTagged? tag (.map (members.filter (·.1 != .name "kind")))
    | _ => none
  | .seq (.str tag :: items) => Relation.ofTagged? tag (.seq items)
  | _ => none

/-- An index. -/
def Index.decode? (d : Datum) : Option Index := do
  let r ← Record.of? ["kind", "name", "fields"] d
  let kind ← r.required "kind" IndexKind.decode?
  let name ← r.required "name" Datum.asString?
  let fields ← r.required "fields" Datum.asStrings?
  pure { kind, name, fields }

/-- A model. -/
def Model.decode? (d : Datum) : Option Model := do
  let r ← Record.of? ["canonical_name", "binding", "columns", "relations", "indexes"] d
  let canonicalName ← r.required "canonical_name" Datum.asString?
  let binding ← r.required "binding" Datum.asString?
  let columns ← r.required "columns" (Datum.asList? Column.decode?)
  let relations ← r.required "relations" (Datum.asList? Relation.decode?)
  let indexes ← r.required "indexes" (Datum.asList? Index.decode?)
  pure { canonicalName, binding, columns, relations, indexes }

/-- An enum. -/
def Enumeration.decode? (d : Datum) : Option Enumeration := do
  let r ← Record.of? ["alias", "canonical_name", "values"] d
  let aliasName ← r.required "alias" Datum.asString?
  let canonicalName ← r.required "canonical_name" Datum.asString?
  let values ← r.required "values" Datum.asStrings?
  pure { aliasName, canonicalName, values }

/-- A location. -/
def Location.decode? (d : Datum) : Option Location := do
  let r ← Record.of? ["table", "column", "member"] d
  let table ← r.optional "table" Datum.asString?
  let column ← r.optional "column" Datum.asString?
  let member ← r.optional "member" Datum.asString?
  pure { table, column, member }

/-- A warning; its kind must be `unresolved_relation_fields`. -/
def Warning.decode? (d : Datum) : Option Warning := do
  let r ← Record.of? ["message", "location", "kind"] d
  let message ← r.required "message" Datum.asString?
  let location ← r.optional "location" Location.decode?
  let _ ← r.required "kind" fun d =>
    if d.variantName? == some "unresolved_relation_fields" then some () else none
  pure { message, location }

/-- A schema. -/
def Schema.decode? (d : Datum) : Option Schema := do
  let r ← Record.of? ["models", "enums", "relations", "warnings", "summary"] d
  let models ← r.required "models" (Datum.asList? Model.decode?)
  let enums ← r.required "enums" (Datum.asList? Enumeration.decode?)
  let relations ← r.required "relations" (Datum.asList? Relation.decode?)
  let warnings ← r.withDefault "warnings" (Datum.asList? Warning.decode?) []
  let summary ← r.required "summary" Datum.asString?
  pure { models, enums, relations, warnings, summary }

/-- A schema from a JSON value; members no decoder reads are skipped, whatever they hold. -/
def Schema.ofJson? (j : Json) : Option Schema := Schema.decode? j.toDatumSkipping

end SchemaNorm
