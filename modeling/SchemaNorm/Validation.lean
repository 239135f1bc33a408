import SchemaNorm.Schema

/-!
Checking a normalized schema for dangling references. Model by model, in order: enum columns
must name a declared enum; index fields must be storage columns of the model; and each
outbound one-row relation must have a key whose two sides have equal length, whose source
fields are columns of the model, and whose reference fields are columns of an existing
referenced model. A relation without any key is only worth a warning.
-/

namespace SchemaNorm

/-- Whether a finding is a dangling reference or a broken constraint. -/
inductive FindingKind where
  | reference
  | constraint
  deriving DecidableEq, Repr, Inhabited

/-- `reference` or `constraint`. -/
def FindingKind.tag : FindingKind → String
  | .reference => "reference"
  | .constraint => "constraint"

/-- An error found in a schema, with where it is and how to fix it. -/
structure Finding where
  kind : FindingKind
  message : String
  location : Option Location
  suggestion : Option String
  deriving DecidableEq, Repr, Inhabited

/-- `Reference error: …` or `Constraint error: …`, followed by the location. -/
def Finding.text (f : Finding) : String :=
  (match f.kind with
    | .reference => "Reference error: "
    | .constraint => "Constraint error: ") ++ f.message ++ Location.formatOption f.location

/-- A warning found in a schema. -/
structure Caution where
  message : String
  location : Option Location
  deriving DecidableEq, Repr, Inhabited

/-- `Warning: …` followed by the location. -/
def Caution.format (c : Caution) : String :=
  "Warning: " ++ c.message ++ Location.formatOption c.location

/-- The errors and warnings of a schema, in the order found. -/
structure Validation where
  errors : List Finding := []
  warnings : List Caution := []
  deriving DecidableEq, Repr, Inhabited

namespace Validation

/-- A schema without errors is valid; warnings do not count. -/
def isValid (v : Validation) : Bool := v.errors.isEmpty

/-- Both lists of `a` followed by those of `b`. -/
def append (a b : Validation) : Validation := ⟨a.errors ++ b.errors, a.warnings ++ b.warnings⟩

instance : Append Validation := ⟨append⟩

end Validation

/-- Where a finding about a relation of a model is: the model, and the relation as member. -/
def OneRelation.locationIn (r : OneRelation) (m : Model) : Location :=
  { table := some m.canonicalName, member := some r.declaredName }

namespace Finding

/-- The error for an enum column of a model that names no declared enum. -/
def unknownEnum (m : Model) (c : Column) : Finding :=
  { kind := .reference
    message := "Column '" ++ c.aliasName ++ "' references unknown enum '" ++
      c.enumName.getD "<none>" ++ "'"
    location := some { table := some m.canonicalName, column := some c.aliasName }
    suggestion := some "Export the enum declaration alongside the table" }

/-- The error for a field of an index of a model that is no storage column of it. -/
def missingIndexColumn (m : Model) (i : Index) (f : String) : Finding :=
  { kind := .reference
    message := "Index '" ++ i.name ++ "' references column '" ++ f ++
      "' which does not exist on '" ++ m.canonicalName ++ "'"
    location := some { table := some m.canonicalName, column := some f, member := some i.name }
    suggestion := some ("Define column '" ++ f ++ "' or remove it from the index") }

/-- The error for a relation of a model whose key sides differ in length. -/
def keyLengthMismatch (m : Model) (r : OneRelation) : Finding :=
  { kind := .constraint
    message := "Relation '" ++ r.declaredName ++ "' has " ++
      toString r.sourceFields.length ++ " source field(s) but " ++
      toString r.referenceFields.length ++ " reference field(s)"
    location := some (r.locationIn m)
    suggestion := some "List the same number of fields on both sides" }

/-- The error for a relation of a model whose referenced model does not exist. -/
def unknownModel (m : Model) (r : OneRelation) : Finding :=
  { kind := .reference
    message := "Relation '" ++ r.declaredName ++ "' references unknown model '" ++
      r.referenceModel ++ "'"
    location := some (r.locationIn m)
    suggestion := none }

end Finding

/-- The warning for a relation of a model that has no key at all. -/
def Caution.keyless (m : Model) (r : OneRelation) : Caution :=
  ⟨"Relation '" ++ r.declaredName ++ "' has no fields and cannot be emitted with a key",
    some (r.locationIn m)⟩

namespace Schema

/-- Enum columns of a model that name no declared enum. -/
def enumColumnErrors (s : Schema) (m : Model) : List Finding :=
  (m.columns.filter fun c => c.type == .enum &&
      !(c.enumName.any fun n => (s.enum? n).isSome)).map (Finding.unknownEnum m)

/-- Index fields of a model that are not storage columns of it. -/
def indexErrors (m : Model) : List Finding :=
  m.indexes.flatMap fun i =>
    (i.fields.filter fun f => (m.columnByName? f).isNone).map (Finding.missingIndexColumn m i)

/-- The error for a relation field missing on a model. -/
def missingField (field model : String) (l : Location) : Finding :=
  { kind := .reference
    message := "Relation field '" ++ field ++ "' does not exist on '" ++ model ++ "'"
    location := some l
    suggestion := some ("Define column '" ++ field ++ "' on '" ++ model ++ "'") }

/-- The findings for one outbound one-row relation of a model. -/
def relationFindings (s : Schema) (m : Model) (r : OneRelation) : Validation :=
  let l := r.locationIn m
  if r.sourceFields.isEmpty && r.referenceFields.isEmpty then
    { warnings := [Caution.keyless m r] }
  else
    let lengths :=
      if r.sourceFields.length != r.referenceFields.length then [Finding.keyLengthMismatch m r]
      else []
    let sources := (r.sourceFields.filter fun f => (m.columnByName? f).isNone).map
      fun f => missingField f m.canonicalName l
    let references := match s.model? r.referenceModel with
      | some target => (r.referenceFields.filter fun f => (target.columnByName? f).isNone).map
          fun f => missingField f target.canonicalName l
      | none => [Finding.unknownModel m r]
    { errors := lengths ++ sources ++ references }

/-- The findings for one model. -/
def modelFindings (s : Schema) (m : Model) : Validation :=
  let relations := (m.relationsIn .outbound).foldl (fun acc r =>
    match r with
    | .one o => acc ++ s.relationFindings m o
    | .many _ => acc) {}
  ({ errors := s.enumColumnErrors m ++ indexErrors m } : Validation) ++ relations

/-- Validates a schema, model by model. -/
def validate (s : Schema) : Validation :=
  s.models.foldl (fun acc m => acc ++ s.modelFindings m) {}

end Schema

end SchemaNorm
