import SchemaNorm.Schema
import SchemaNorm.Error
import SchemaNorm.Text.WhiteSpace

/-!
Classifying an exported column into a normalized one. The storage kind decides the type;
arrays and custom columns also read their SQL type, trimmed: only `text[]`, `jsonb[]` and
`bytea` are understood. An enum column needs an enum name. A varchar column takes its length
from the export, or else from an SQL type such as `VARCHAR(255)`. A text primary key without
a default gets a generated identifier.
-/

namespace SchemaNorm

/-- Whether `cs` starts with the lowercase ASCII word `w`, letters compared without case;
gives the rest. -/
def stripWordIgnoringCase : List Char → List Char → Option (List Char)
  | [], cs => some cs
  | w :: ws, c :: cs => if c.toLower = w then stripWordIgnoringCase ws cs else none
  | _ :: _, [] => none

/-- The value of a run of ASCII digits. -/
def digitsValue (ds : List Char) : Nat := ds.foldl (fun n c => n * 10 + (c.toNat - '0'.toNat)) 0

/-- The length in an SQL type that starts (after white space) with `varchar` or
`character varying` in any letter case, then `(`, digits and `)`, white space allowed
around each. The digits must be ASCII and the value below `2 ^ 32`; a run holding other
decimal digits matches no length either way. -/
def lengthHint? (sqlType : String) : Option Nat :=
  let cs := sqlType.toList.dropWhile Text.isWhiteSpace
  let afterName := (stripWordIgnoringCase "varchar".toList cs).orElse fun _ =>
    stripWordIgnoringCase "character varying".toList cs
  match afterName with
  | none => none
  | some cs =>
    match cs.dropWhile Text.isWhiteSpace with
    | '(' :: rest =>
      let rest := rest.dropWhile Text.isWhiteSpace
      let digits := rest.takeWhile Char.isDigit
      match (rest.dropWhile Char.isDigit).dropWhile Text.isWhiteSpace with
      | ')' :: _ =>
        if digits.isEmpty then none
        else
          let n := digitsValue digits
          if n < Nat.pow 2 32 then some n else none
      | _ => none
    | _ => none

/-- A column type, and whether the column holds an array of it. -/
structure Classification where
  type : ColumnType
  isArray : Bool := false

namespace ColumnDescriptor

/-- The error for a column that fits no type, for the given reason. -/
def unclassifiable (table : String) (d : ColumnDescriptor) (reason : String) : NormalizeError :=
  .unclassifiableColumn table d.name d.storage.tag d.sqlType reason

/-- The type of a column, from its storage kind. -/
def classification (table : String) (d : ColumnDescriptor) :
    Except NormalizeError Classification :=
  match d.storage with
  | .enum =>
    if d.enumName.isNone then .error (unclassifiable table d "enum column without an enum name")
    else .ok ⟨.enum, false⟩
  | .timestamp => .ok ⟨.datetime, false⟩
  | .boolean => .ok ⟨.boolean, false⟩
  | .text => .ok ⟨.text, false⟩
  | .integer => .ok ⟨.int, false⟩
  | .bigint53 => .ok ⟨.bigint, false⟩
  | .jsonb => .ok ⟨.json, false⟩
  | .varchar => .ok ⟨.varchar, false⟩
  | .array =>
    let element := Text.trim d.sqlType
    if element = "text[]" then .ok ⟨.text, true⟩
    else if element = "jsonb[]" then .ok ⟨.json, true⟩
    else .error (unclassifiable table d "unsupported array element type")
  | .custom =>
    if Text.trim d.sqlType = "bytea" then .ok ⟨.bytea, false⟩
    else .error (unclassifiable table d "unsupported custom column type")
  | .numeric => .ok ⟨.decimal, false⟩
  | .date => .ok ⟨.date, false⟩
  | .other _ => .error (unclassifiable table d "no type tag matched")

/-- The column of an exported column, with the constraints carried over. -/
def toColumn (d : ColumnDescriptor) (c : Classification) : Column :=
  let column : Column :=
    { aliasName := d.aliasName
      canonicalName := d.name
      type := c.type
      isNullable := d.isNullable
      hasDefault := d.hasDefault
      defaultValue := d.defaultValue
      isPrimary := d.primary
      isUnique := d.unique
      isArray := c.isArray
      isUpdatedAt := d.updatedAt
      enumName := if c.type = .enum then d.enumName else none
      lengthHint := if c.type = .varchar then d.length.orElse fun _ => lengthHint? d.sqlType
                    else none }
  if column.type = .text ∧ column.isPrimary ∧ !column.isArray ∧ column.defaultValue.isNone then
    { column with hasGeneratedId := true, hasDefault := true }
  else column

/-- Classifies an exported column of the given table. -/
def classify (table : String) (d : ColumnDescriptor) : Except NormalizeError Column :=
  (d.classification table).map d.toColumn

end ColumnDescriptor

end SchemaNorm
