/-!
Why a snapshot cannot be normalized. Each cause carries the names its message cites, and the
table it concerns (for a repeated model, the repeated name).
-/

namespace SchemaNorm

/-- A reason normalization stops. -/
inductive NormalizeError where
  /-- A column whose storage maps to no column type. -/
  | unclassifiableColumn (table column storage sqlType reason : String)
  /-- A relation whose cardinality is neither `one` nor `many`. -/
  | malformedRelation (table relation cardinality : String)
  /-- An index whose kind tag is unknown. -/
  | unsupportedIndexKind (table index kind : String)
  /-- An index without columns, or whose kind tag contradicts its flag. -/
  | ambiguousIndex (table index reason : String)
  /-- A one-row relation without key columns, when that is not allowed. -/
  | unresolvedRelationFields (table relation referencedTable : String)
  /-- Two tables with one name. -/
  | duplicateModel (name : String)
  deriving DecidableEq, Repr, Inhabited

namespace NormalizeError

/-- The message of an error. -/
def message : NormalizeError → String
  | .unclassifiableColumn table column storage sqlType reason =>
    "Cannot classify column '" ++ column ++ "' on table '" ++ table ++ "': " ++ reason ++
      " (storage: " ++ storage ++ ", sql type: " ++ sqlType ++ ")"
  | .malformedRelation table relation cardinality =>
    "Relation '" ++ relation ++ "' on table '" ++ table ++
      "' is neither a one nor a many relation (cardinality: " ++ cardinality ++ ")"
  | .unsupportedIndexKind table index kind =>
    "Unsupported index kind '" ++ kind ++ "' for index '" ++ index ++ "' on table '" ++ table ++ "'"
  | .ambiguousIndex table index reason =>
    "Ambiguous index '" ++ index ++ "' on table '" ++ table ++ "': " ++ reason
  | .unresolvedRelationFields table relation referencedTable =>
    "Cannot resolve fields for relation '" ++ relation ++ "' on table '" ++ table ++
      "': no explicit fields and no foreign key to '" ++ referencedTable ++ "'"
  | .duplicateModel name => "Duplicate model name '" ++ name ++ "'"

/-- The table an error concerns; for a repeated model, its name. -/
def table : NormalizeError → String
  | .unclassifiableColumn table .. => table
  | .malformedRelation table .. => table
  | .unsupportedIndexKind table .. => table
  | .ambiguousIndex table .. => table
  | .unresolvedRelationFields table .. => table
  | .duplicateModel name => name

/-- Whether the error is about a column's type. -/
def isUnclassifiableColumn : NormalizeError → Bool
  | .unclassifiableColumn .. => true
  | _ => false

/-- Whether the error is about a relation's cardinality. -/
def isMalformedRelation : NormalizeError → Bool
  | .malformedRelation .. => true
  | _ => false

/-- Whether the error is about an index. -/
def isIndexError : NormalizeError → Bool
  | .unsupportedIndexKind .. | .ambiguousIndex .. => true
  | _ => false

/-- Whether the error is about a relation without key columns. -/
def isUnresolvedRelationFields : NormalizeError → Bool
  | .unresolvedRelationFields .. => true
  | _ => false

end NormalizeError

end SchemaNorm
