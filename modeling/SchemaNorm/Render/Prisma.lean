import SchemaNorm.Schema
import SchemaNorm.Render.Literal
import SchemaNorm.Text.WhiteSpace

/-!
The Prisma schema of a normalized schema: a base prelude (the client generator and a
PostgreSQL datasource unless another is given), then the enums and the models, each sorted by
name (ties keep their order). A model block has up to three sections: column definitions,
one-row relations (outbound ones as fields with their key, inbound ones as back-reference
lists), and indexes.
-/

namespace SchemaNorm

namespace Prisma

/-- The prelude used when none is given. -/
def defaultPrelude : String :=
  Render.unlines ["generator client \x7b", "  provider = \"prisma-client-js\"", "\x7d", "",
    "datasource db \x7b", "  provider = \"postgresql\"", "  url      = env(\"DATABASE_URL\")",
    "\x7d"]

/-- The Prisma type of a column, before array and optional marks. -/
def typeName (c : Column) : String :=
  match c.type with
  | .enum => c.enumName.getD c.aliasName
  | .date | .datetime => "DateTime"
  | .text | .varchar => "String"
  | .boolean => "Boolean"
  | .decimal => "Decimal"
  | .int => "Int"
  | .bigint => "BigInt"
  | .json => "Json"
  | .bytea => "Bytes"

/-- The default attribute of a column: a generated identifier, the current time for dates,
a quoted literal for strings, the plain value otherwise. -/
def defaultAttribute (c : Column) : Option String :=
  if c.hasGeneratedId then some "@default(cuid())"
  else match c.type with
    | .date | .datetime =>
      if c.hasDefault && !c.isUpdatedAt then some "@default(now())" else none
    | .text | .varchar => c.defaultValue.map fun v => "@default(" ++ Render.quote v.toPlainString ++ ")"
    | _ => c.defaultValue.map fun v => "@default(" ++ v.toPlainString ++ ")"

/-- The native type attribute of a column. -/
def nativeAttribute (c : Column) : Option String :=
  match c.type with
  | .datetime => some "@db.Timestamptz()"
  | .date => some "@db.Date"
  | .varchar => some (match c.lengthHint with
      | some n => "@db.VarChar(" ++ toString n ++ ")"
      | none => "@db.VarChar")
  | .bytea => some "@db.ByteA()"
  | _ => none

/-- The definition line of a column. -/
def columnLine (c : Column) : String :=
  let array := if c.isArray then "[]" else ""
  let optional := if c.isNullable && !c.isArray then "?" else ""
  let key := if c.isPrimary then some "@id" else if c.isUnique then some "@unique" else none
  let updated := if c.isUpdatedAt then some "@updatedAt" else none
  " ".intercalate ([c.aliasName, typeName c ++ array ++ optional] ++
    [key, updated, defaultAttribute c, nativeAttribute c].filterMap id)

/-- The field line of an outbound one-row relation. -/
def outboundLine (r : OneRelation) : String :=
  let optional := if r.isOptional then "?" else ""
  let key := if r.sourceFields.isEmpty then []
    else ["fields: [" ++ ", ".intercalate r.sourceFields ++ "]",
          "references: [" ++ ", ".intercalate r.referenceFields ++ "]"]
  r.aliasName ++ " " ++ r.referenceModel ++ optional ++ " @relation(" ++
    ", ".intercalate (("\"" ++ r.constraintName ++ "\"") :: key) ++ ")"

/-- The field name a back-reference falls back to: the source model's name and the relation's
name joined by `_`. -/
def fallbackField (r : OneRelation) : String := r.sourceModel ++ "_" ++ r.declaredName

/-- The field name of an inbound relation's back-reference line, with the names in `used`
taken: the source model's name, or its fallback when that is taken. -/
def backReferenceField (used : List String) (r : OneRelation) : String :=
  if r.sourceModel ∈ used then fallbackField r else r.sourceModel

/-- The back-reference line of an inbound relation, under the given field name: a list of the
source model, with the relation's constraint name. -/
def backReferenceLine (field : String) (r : OneRelation) : String :=
  field ++ " " ++ r.sourceModel ++ "[] @relation(\"" ++ r.constraintName ++ "\")"

/-- The field name a one-row relation's line declares: an outbound relation's alias, an inbound
relation's back-reference field. -/
def relationField (used : List String) (r : OneRelation) : String :=
  match r.direction with
  | .outbound => r.aliasName
  | .inbound => backReferenceField used r

/-- The line of a one-row relation, with the names in `used` taken. -/
def relationLine (used : List String) (r : OneRelation) : String :=
  match r.direction with
  | .outbound => outboundLine r
  | .inbound => backReferenceLine (backReferenceField used r) r

/-- The relation lines of a model, in order: one for each one-row relation, none for collection
relations. Field names in `used` are taken, and each line takes its own. -/
def relationLines : List String → List Relation → List String
  | _, [] => []
  | used, .many _ :: rs => relationLines used rs
  | used, .one r :: rs => relationLine used r :: relationLines (relationField used r :: used) rs

/-- The line of an index. -/
def indexLine (i : Index) : String :=
  (match i.kind with
    | .unique => "@@unique"
    | .normal => "@@index") ++ "([" ++ ", ".intercalate i.fields ++ "])"

/-- A titled section of lines, or nothing when there are none. -/
def titledSection (title : String) (lines : List String) : Option String :=
  if lines.isEmpty then none
  else some (Render.unlines (("  " ++ title) :: lines.map ("  " ++ ·)))

/-- The block of a model. -/
def modelBlock (m : Model) : String :=
  let sections := [titledSection "//> Definition" (m.columns.map columnLine),
    titledSection "//> Relations" (relationLines (m.columns.map (·.aliasName)) m.relations),
    titledSection "//> Constraints & indexes" (m.indexes.map indexLine)].filterMap id
  "model " ++ m.canonicalName ++ " \x7b\n" ++ "\n".intercalate sections ++ "\x7d"

/-- The block of an enum. -/
def enumBlock (e : Enumeration) : String :=
  "enum " ++ e.canonicalName ++ " \x7b\n" ++ Render.unlines (e.values.map ("  " ++ ·)) ++ "\x7d"

/-- The Prisma schema, after the given prelude with its trailing white space removed. -/
def render (prelude : String) (s : Schema) : String :=
  let enums := s.enums.mergeSort fun a b => a.canonicalName ≤ b.canonicalName
  let models := s.models.mergeSort fun a b => a.canonicalName ≤ b.canonicalName
  Text.trimEnd prelude ++ "\n\n// ENUMS:\n" ++
    enums.foldl (fun acc e => acc ++ "\n" ++ enumBlock e ++ "\n") "" ++
    "\n// MODELS:\n" ++
    models.foldl (fun acc m => acc ++ "\n" ++ modelBlock m ++ "\n") ""

end Prisma

end SchemaNorm
