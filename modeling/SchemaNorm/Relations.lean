import SchemaNorm.Schema
import SchemaNorm.Error

/-!
Resolving declared relations. Every relation set is read in entry order and each of its
descriptors in order. A collection relation is taken as declared. A one-row relation needs
key columns: explicit ones from its settings, or else those of the first foreign key of its
source table that points at the referenced table. When neither exists the policy decides:
stop with an error, or warn and keep the relation without a key. The result lists the one-row
relations, then the collection relations, each distinct relation once.
-/

namespace SchemaNorm

/-- What to do with a one-row relation whose key columns cannot be found. -/
inductive RelationPolicy where
  | warn
  | error
  deriving DecidableEq, Repr, Inhabited

namespace RelationPolicy

/-- The policy a tag names: exactly `warn` or `error`. -/
def ofTag? : String → Option RelationPolicy
  | "warn" => some .warn
  | "error" => some .error
  | _ => none

/-- `warn` or `error`. -/
def tag : RelationPolicy → String
  | .warn => "warn"
  | .error => "error"

/-- Why a tag names no policy. -/
def unsupportedMessage (value : String) : String :=
  "Unsupported unresolved relation policy: " ++ value ++ ". Please specify one of: warn, error."

end RelationPolicy

/-- The relations of a snapshot, and the warnings raised while resolving them. -/
structure Resolution where
  relations : List Relation := []
  warnings : List Warning := []
  deriving DecidableEq, Repr, Inhabited

namespace Resolution

/-- The relations a model takes part in: one-row relations that reference it, seen inbound,
then every relation it declares, seen outbound. -/
def attachedTo (r : Resolution) (model : String) : List Relation :=
  (r.relations.filter fun x => x.isOne && x.referenceModel == model).map
      (·.withDirection .inbound) ++
    (r.relations.filter fun x => x.sourceModel == model).map (·.withDirection .outbound)

/-- The number of one-row relations. -/
def oneCount (r : Resolution) : Nat := (r.relations.filter (·.isOne)).length

/-- The number of collection relations. -/
def manyCount (r : Resolution) : Nat := r.relations.length - r.oneCount

end Resolution

/-- The distinct elements of a list, each at its first occurrence. -/
def dedupKeepFirst {α : Type} [DecidableEq α] : List α → List α → List α
  | seen, [] => (seen.reverse)
  | seen, x :: xs => if x ∈ seen then dedupKeepFirst seen xs else dedupKeepFirst (x :: seen) xs

namespace RelationDescriptor

/-- The source table: the descriptor's own, or else the enclosing set's table. -/
def sourceIn (d : RelationDescriptor) (s : RelationSet) : String :=
  if d.sourceTable.isEmpty then s.table else d.sourceTable

/-- Whether some of the named storage columns of a table may be `NULL`; false without a
table. -/
def anyNullable (table : Option TableDeclaration) (columns : List String) : Bool :=
  match table with
  | none => false
  | some t => columns.any fun name => (t.columnByName? name).any (·.isNullable)

/-- Resolves a one-row relation declared from `source`: its key columns, optionality and
constraint name. A relation whose key cannot be found is an error or, with a warning, keeps
an empty key. -/
def resolveOne (policy : RelationPolicy) (g : Graph) (source : String) (d : RelationDescriptor) :
    Except NormalizeError (OneRelation × Option Warning) :=
  let table := g.tableNamed? source
  let config := d.config.getD {}
  let optional := config.optional.getD (anyNullable table config.fields)
  let relation (fields references : List String) (isOptional : Bool) : OneRelation :=
    { declaredName := d.name, aliasName := d.name, relationName := config.relationName
      sourceModel := source, referenceModel := d.referencedTable
      sourceFields := fields, referenceFields := references, isOptional
      direction := .outbound }
  if config.fields.isEmpty || config.references.isEmpty then
    let foreignKey := table.bind fun t => t.foreignKeys.find? (·.foreignTable == d.referencedTable)
    match foreignKey with
    | some fk => .ok (relation fk.columns fk.foreignColumns (anyNullable table fk.columns), none)
    | none =>
      match policy with
      | .error => .error (.unresolvedRelationFields source d.name d.referencedTable)
      | .warn =>
        .ok (relation [] [] optional,
          some (Warning.unresolvedRelationFields source d.name d.referencedTable))
  else .ok (relation config.fields config.references optional, none)

end RelationDescriptor

/-- Relations found so far: one-row ones and collection ones, each in declaration order. -/
structure ResolutionState where
  ones : List Relation := []
  manys : List Relation := []
  warnings : List Warning := []

/-- Resolves one descriptor of a relation set into the state. -/
def resolveDescriptor (policy : RelationPolicy) (g : Graph) (s : RelationSet)
    (st : ResolutionState) (d : RelationDescriptor) : Except NormalizeError ResolutionState :=
  let source := d.sourceIn s
  match d.cardinality with
  | .one => do
    let (r, w) ← d.resolveOne policy g source
    pure { st with ones := st.ones ++ [.one r], warnings := st.warnings ++ w.toList }
  | .many =>
    .ok { st with manys := st.manys ++ [.many ⟨d.name, source, d.referencedTable, .outbound⟩] }
  | .other raw => .error (.malformedRelation source d.name raw)

/-- Resolves every relation of a snapshot; the first failing descriptor decides the error. -/
def Graph.resolve (policy : RelationPolicy) (g : Graph) : Except NormalizeError Resolution := do
  let st ← g.relationSets.foldlM
    (fun st s => s.relations.foldlM (resolveDescriptor policy g s) st) ({} : ResolutionState)
  pure { relations := dedupKeepFirst [] (st.ones ++ st.manys), warnings := st.warnings }

end SchemaNorm
