import SchemaNorm.Binary64.Layout

/-!
Schema-graph snapshots: the exported description of a database that the normalizer reads.
A snapshot is a list of entries in export order; an entry declares an enum, a table with its
columns, indexes and foreign keys, or a set of named relations of one table. Entries of any
other kind are kept as placeholders, so that the order of the known ones is what it was.
-/

namespace SchemaNorm

/-- How a column is stored. Kinds that the normalizer does not know keep their tag. -/
inductive StorageKind where
  | enum | timestamp | boolean | text | integer | bigint53 | jsonb | varchar | array | custom
  | numeric | date
  | other (raw : String)
  deriving DecidableEq, Repr, Inhabited

namespace StorageKind

/-- The tags of the known kinds, as exports write them. -/
def known : List (String × StorageKind) :=
  [("enum", .enum), ("timestamp", .timestamp), ("boolean", .boolean), ("text", .text),
   ("integer", .integer), ("bigint53", .bigint53), ("jsonb", .jsonb), ("varchar", .varchar),
   ("array", .array), ("custom", .custom), ("numeric", .numeric), ("date", .date)]

/-- The kind a tag names; an unknown tag is kept as it is. -/
def ofTag (tag : String) : StorageKind := (known.lookup tag).getD (.other tag)

/-- The tag of a kind. -/
def tag : StorageKind → String
  | .enum => "enum" | .timestamp => "timestamp" | .boolean => "boolean" | .text => "text"
  | .integer => "integer" | .bigint53 => "bigint53" | .jsonb => "jsonb"
  | .varchar => "varchar" | .array => "array" | .custom => "custom"
  | .numeric => "numeric" | .date => "date" | .other raw => raw

end StorageKind

/-- A column default as exported: a Boolean, a 64-bit integer, a double or a text. -/
inductive DefaultValue where
  | bool (b : Bool)
  | int (i : Int)
  | float (x : Binary64)
  | text (s : String)
  deriving DecidableEq, Repr, Inhabited

namespace DefaultValue

/-- The default as plain text: `true`, `-5`, `0.0000001`, or the text itself. -/
def toPlainString : DefaultValue → String
  | .bool b => if b then "true" else "false"
  | .int i => toString i
  | .float x => x.toPlainString
  | .text s => s

end DefaultValue

/-- One exported column: its alias in the API, its storage name, how it is stored, and its
constraints. -/
structure ColumnDescriptor where
  aliasName : String
  name : String
  storage : StorageKind
  sqlType : String := ""
  notNull : Bool := false
  hasDefault : Bool := false
  defaultValue : Option DefaultValue := none
  primary : Bool := false
  unique : Bool := false
  enumName : Option String := none
  length : Option Nat := none
  updatedAt : Bool := false
  deriving DecidableEq, Repr, Inhabited

namespace ColumnDescriptor

/-- A column whose alias is its storage name, with no constraints. -/
def new (name : String) (storage : StorageKind) (sqlType : String) : ColumnDescriptor :=
  { aliasName := name, name, storage, sqlType }

/-- The column made `NOT NULL`. -/
def setNotNull (c : ColumnDescriptor) : ColumnDescriptor := { c with notNull := true }

/-- The column made the primary key, which implies `NOT NULL`. -/
def setPrimaryKey (c : ColumnDescriptor) : ColumnDescriptor :=
  { c with primary := true, notNull := true }

/-- The column with a default value. -/
def setDefault (c : ColumnDescriptor) (v : DefaultValue) : ColumnDescriptor :=
  { c with hasDefault := true, defaultValue := some v }

/-- A column may hold `NULL` unless it is declared `NOT NULL`. -/
def isNullable (c : ColumnDescriptor) : Bool := !c.notNull

end ColumnDescriptor

/-- A foreign key declared on a table: local storage columns referencing another table. -/
structure ForeignKey where
  columns : List String
  foreignTable : String
  foreignColumns : List String
  deriving DecidableEq, Repr, Inhabited

/-- An index as exported: its columns, and its kind given by a flag, a tag, both or neither. -/
structure IndexDeclaration where
  name : String
  columns : List String := []
  unique : Option Bool := none
  kind : Option String := none
  deriving DecidableEq, Repr, Inhabited

/-- An index over the given columns whose kind is given by the flag alone. -/
def IndexDeclaration.new (name : String) (columns : List String) (unique : Bool) :
    IndexDeclaration :=
  { name, columns, unique := some unique }

/-- A table declaration. `indexes` is absent when the export had no index list at all. -/
structure TableDeclaration where
  binding : String
  name : String
  columns : List ColumnDescriptor := []
  indexes : Option (List IndexDeclaration) := none
  foreignKeys : List ForeignKey := []
  deriving DecidableEq, Repr, Inhabited

namespace TableDeclaration

/-- A table whose binding is its name, with nothing declared on it. -/
def new (name : String) : TableDeclaration := { binding := name, name }

/-- The first column with the given storage name. -/
def columnByName? (t : TableDeclaration) (name : String) : Option ColumnDescriptor :=
  t.columns.find? (·.name == name)

/-- The table with one more column. -/
def addColumn (t : TableDeclaration) (c : ColumnDescriptor) : TableDeclaration :=
  { t with columns := t.columns ++ [c] }

/-- The table with one more foreign key. -/
def addForeignKey (t : TableDeclaration) (fk : ForeignKey) : TableDeclaration :=
  { t with foreignKeys := t.foreignKeys ++ [fk] }

/-- The table with one more index; the first one starts the index list. -/
def addIndex (t : TableDeclaration) (i : IndexDeclaration) : TableDeclaration :=
  { t with indexes := some (t.indexes.getD [] ++ [i]) }

end TableDeclaration

/-- An enum declaration: binding, name and values in order. -/
structure EnumDeclaration where
  binding : String
  name : String
  values : List String := []
  deriving DecidableEq, Repr, Inhabited

/-- How many rows a relation reaches. Other tags are kept as they are. -/
inductive Cardinality where
  | one
  | many
  | other (raw : String)
  deriving DecidableEq, Repr, Inhabited

namespace Cardinality

/-- The cardinality a tag names. -/
def ofTag (tag : String) : Cardinality :=
  if tag = "one" then .one else if tag = "many" then .many else .other tag

/-- The tag of a cardinality. -/
def tag : Cardinality → String
  | .one => "one"
  | .many => "many"
  | .other raw => raw

end Cardinality

/-- Explicit settings of a relation: its key columns, optionality and constraint name. -/
structure RelationConfig where
  fields : List String := []
  references : List String := []
  optional : Option Bool := none
  relationName : Option String := none
  deriving DecidableEq, Repr, Inhabited

/-- A named relation from a source table to a referenced table. An empty source table means
the table of the enclosing relation set. -/
structure RelationDescriptor where
  name : String
  cardinality : Cardinality
  sourceTable : String := ""
  referencedTable : String
  config : Option RelationConfig := none
  deriving DecidableEq, Repr, Inhabited

namespace RelationDescriptor

/-- A single-row relation. -/
def one (name source referenced : String) : RelationDescriptor :=
  { name, cardinality := .one, sourceTable := source, referencedTable := referenced }

/-- A collection relation. -/
def many (name source referenced : String) : RelationDescriptor :=
  { name, cardinality := .many, sourceTable := source, referencedTable := referenced }

/-- The relation with explicit settings. -/
def withConfig (r : RelationDescriptor) (c : RelationConfig) : RelationDescriptor :=
  { r with config := some c }

end RelationDescriptor

/-- The relations declared for one table. -/
structure RelationSet where
  binding : String
  table : String
  relations : List RelationDescriptor := []
  deriving DecidableEq, Repr, Inhabited

/-- One entry of a snapshot. -/
inductive Entry where
  | enum (e : EnumDeclaration)
  | table (t : TableDeclaration)
  | relations (s : RelationSet)
  /-- An entry of a kind the normalizer ignores. -/
  | other
  deriving DecidableEq, Repr, Inhabited

namespace Entry

/-- The binding of a declaration; placeholders have none. -/
def binding? : Entry → Option String
  | .enum e => some e.binding
  | .table t => some t.binding
  | .relations s => some s.binding
  | .other => none

/-- The table an entry declares. -/
def table? : Entry → Option TableDeclaration
  | .table t => some t
  | _ => none

/-- The enum an entry declares. -/
def enum? : Entry → Option EnumDeclaration
  | .enum e => some e
  | _ => none

/-- The relation set an entry declares. -/
def relationSet? : Entry → Option RelationSet
  | .relations s => some s
  | _ => none

end Entry

/-- A schema-graph snapshot. -/
structure Graph where
  version : Option String := none
  entries : List Entry := []
  deriving DecidableEq, Repr, Inhabited

namespace Graph

/-- The table declarations in entry order. -/
def tables (g : Graph) : List TableDeclaration := g.entries.filterMap Entry.table?

/-- The enum declarations in entry order. -/
def enums (g : Graph) : List EnumDeclaration := g.entries.filterMap Entry.enum?

/-- The relation sets in entry order. -/
def relationSets (g : Graph) : List RelationSet := g.entries.filterMap Entry.relationSet?

/-- The first table with the given name. -/
def tableNamed? (g : Graph) (name : String) : Option TableDeclaration :=
  g.tables.find? (·.name == name)

/-- The snapshot with one more entry at the end. -/
def push (g : Graph) (e : Entry) : Graph := { g with entries := g.entries ++ [e] }

end Graph

end SchemaNorm
