import SchemaNorm.Graph

/-!
The normalized schema: models with typed columns, relations and indexes, the enums, every
relation once, the warnings raised while relations were resolved, and a summary text. A
model's columns are keyed by alias: inserting a column whose alias is taken replaces the old
column in its place.
-/

namespace SchemaNorm

/-- The closed set of column types. -/
inductive ColumnType where
  | enum | boolean | text | varchar | date | datetime | int | bigint | decimal | json | bytea
  deriving DecidableEq, Repr, Inhabited

namespace ColumnType

/-- The tag of a type. -/
def tag : ColumnType → String
  | .enum => "enum" | .boolean => "boolean" | .text => "text" | .varchar => "varchar"
  | .date => "date" | .datetime => "datetime" | .int => "int" | .bigint => "bigint"
  | .decimal => "decimal" | .json => "json" | .bytea => "bytea"

/-- Every type, in declaration order. -/
def all : List ColumnType :=
  [.enum, .boolean, .text, .varchar, .date, .datetime, .int, .bigint, .decimal, .json, .bytea]

/-- The type a tag names. -/
def ofTag? (tag : String) : Option ColumnType := all.find? (·.tag == tag)

/-- Only texts and JSON values come in arrays. -/
def supportsArray : ColumnType → Bool
  | .text | .json => true
  | _ => false

end ColumnType

/-- A normalized column. -/
structure Column where
  aliasName : String
  canonicalName : String
  type : ColumnType
  isNullable : Bool := true
  hasDefault : Bool := false
  defaultValue : Option DefaultValue := none
  isPrimary : Bool := false
  isUnique : Bool := false
  isArray : Bool := false
  isUpdatedAt : Bool := false
  hasGeneratedId : Bool := false
  enumName : Option String := none
  lengthHint : Option Nat := none
  deriving DecidableEq, Repr, Inhabited

/-- Which end of a relation a model sees: the referenced side (`inbound`) or the declaring
side, which owns the key (`outbound`). -/
inductive Direction where
  | inbound
  | outbound
  deriving DecidableEq, Repr, Inhabited

namespace Direction

/-- `in` or `out`. -/
def tag : Direction → String
  | .inbound => "in"
  | .outbound => "out"

/-- The other direction. -/
def flip : Direction → Direction
  | .inbound => .outbound
  | .outbound => .inbound

end Direction

/-- A single-row relation with its key columns. -/
structure OneRelation where
  declaredName : String
  aliasName : String
  relationName : Option String
  sourceModel : String
  referenceModel : String
  sourceFields : List String
  referenceFields : List String
  isOptional : Bool
  direction : Direction
  deriving DecidableEq, Repr, Inhabited

namespace OneRelation

/-- The key is known: some source fields, as many as reference fields. -/
def isResolved (r : OneRelation) : Bool :=
  !r.sourceFields.isEmpty && r.sourceFields.length == r.referenceFields.length

/-- The constraint name: the explicit one, else `Reference_Source`. -/
def constraintName (r : OneRelation) : String :=
  r.relationName.getD (r.referenceModel ++ "_" ++ r.sourceModel)

end OneRelation

/-- A collection relation. -/
structure ManyRelation where
  declaredName : String
  sourceModel : String
  referenceModel : String
  direction : Direction
  deriving DecidableEq, Repr, Inhabited

/-- A relation of either cardinality. -/
inductive Relation where
  | one (r : OneRelation)
  | many (r : ManyRelation)
  deriving DecidableEq, Repr, Inhabited

namespace Relation

/-- The name the relation was declared under. -/
def declaredName : Relation → String
  | .one r => r.declaredName
  | .many r => r.declaredName

/-- The declaring model. -/
def sourceModel : Relation → String
  | .one r => r.sourceModel
  | .many r => r.sourceModel

/-- The referenced model. -/
def referenceModel : Relation → String
  | .one r => r.referenceModel
  | .many r => r.referenceModel

/-- The direction the relation is seen from. -/
def direction : Relation → Direction
  | .one r => r.direction
  | .many r => r.direction

/-- `one` or `many`. -/
def kind : Relation → String
  | .one _ => "one"
  | .many _ => "many"

/-- Whether the relation reaches a single row. -/
def isOne : Relation → Bool
  | .one _ => true
  | .many _ => false

/-- The one-row relation, if it is one. -/
def toOne? : Relation → Option OneRelation
  | .one r => some r
  | .many _ => none

/-- The same relation seen from the given direction. -/
def withDirection (r : Relation) (d : Direction) : Relation :=
  match r with
  | .one o => .one { o with direction := d }
  | .many m => .many { m with direction := d }

end Relation

/-- Whether an index enforces uniqueness. -/
inductive IndexKind where
  | unique
  | normal
  deriving DecidableEq, Repr, Inhabited

/-- `unique` or `normal`. -/
def IndexKind.tag : IndexKind → String
  | .unique => "unique"
  | .normal => "normal"

/-- A normalized index over storage columns. -/
structure Index where
  kind : IndexKind
  name : String
  fields : List String
  deriving DecidableEq, Repr, Inhabited

/-- Whether an index is a unique one. -/
def Index.isUnique (i : Index) : Bool := i.kind == .unique

/-- A model: a table with typed columns, the relations attached to it, and its indexes. -/
structure Model where
  canonicalName : String
  binding : String
  columns : List Column := []
  relations : List Relation := []
  indexes : List Index := []
  deriving DecidableEq, Repr, Inhabited

namespace Model

/-- A model with the given name and binding, and nothing in it yet. -/
def new (canonicalName binding : String) : Model := { canonicalName, binding }

/-- Replaces the first column with the alias of `c` by `c`, or appends `c`; also gives the
column replaced. -/
def insertColumnIn (c : Column) : List Column → List Column × Option Column
  | [] => ([c], none)
  | d :: ds =>
    if d.aliasName = c.aliasName then (c :: ds, some d)
    else
      let (rest, old) := insertColumnIn c ds
      (d :: rest, old)

/-- Inserts a column by alias: the last write wins and keeps the first position. Gives the
model and the column that was replaced. -/
def insertColumn (m : Model) (c : Column) : Model × Option Column :=
  let (columns, old) := insertColumnIn c m.columns
  ({ m with columns }, old)

/-- The first column with the given alias. -/
def column? (m : Model) (key : String) : Option Column := m.columns.find? (·.aliasName == key)

/-- The first column with the given storage name. -/
def columnByName? (m : Model) (name : String) : Option Column :=
  m.columns.find? (·.canonicalName == name)

/-- The relations seen from the given direction. -/
def relationsIn (m : Model) (d : Direction) : List Relation :=
  m.relations.filter (·.direction == d)

end Model

/-- A normalized enum: binding, name and values. -/
structure Enumeration where
  aliasName : String
  canonicalName : String
  values : List String
  deriving DecidableEq, Repr, Inhabited

/-- Where in a schema a finding is: table, column and member, each optional. -/
structure Location where
  table : Option String := none
  column : Option String := none
  member : Option String := none
  deriving DecidableEq, Repr, Inhabited

/-- The parts present, as ` (table: T, column: C, member: M)`; nothing when none is. -/
def Location.format (l : Location) : String :=
  let parts := [l.table.map ("table: " ++ ·), l.column.map ("column: " ++ ·),
    l.member.map ("member: " ++ ·)].filterMap id
  if parts.isEmpty then "" else " (" ++ ", ".intercalate parts ++ ")"

/-- A location's text, nothing when there is no location. -/
def Location.formatOption : Option Location → String
  | some l => l.format
  | none => ""

/-- A warning raised while normalizing. The only kind is a one-row relation whose key could
not be found. -/
structure Warning where
  message : String
  location : Option Location
  deriving DecidableEq, Repr, Inhabited

namespace Warning

/-- The warning for a relation that has neither explicit key columns nor a foreign key. -/
def unresolvedRelationFields (table relation referenced : String) : Warning :=
  { message := "Relation '" ++ relation ++ "' on '" ++ table ++
      "' has no fields: no explicit config and no foreign key to '" ++ referenced ++ "'"
    location := some { table := some table } }

/-- The tag of the warning's kind. -/
def kindTag (_ : Warning) : String := "unresolved_relation_fields"

/-- `Warning: message (location)`. -/
def format (w : Warning) : String := "Warning: " ++ w.message ++ Location.formatOption w.location

end Warning

/-- A normalized schema. -/
structure Schema where
  models : List Model
  enums : List Enumeration
  relations : List Relation
  warnings : List Warning := []
  summary : String
  deriving DecidableEq, Repr, Inhabited

namespace Schema

/-- The first model with the given name. -/
def model? (s : Schema) (name : String) : Option Model := s.models.find? (·.canonicalName == name)

/-- The first enum with the given name. -/
def enum? (s : Schema) (name : String) : Option Enumeration :=
  s.enums.find? (·.canonicalName == name)

end Schema

end SchemaNorm
