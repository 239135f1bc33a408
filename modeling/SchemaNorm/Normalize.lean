import SchemaNorm.Assembly

/-!
Normalizing a snapshot: the enums as declared, the relations resolved, then one model per
table in entry order. Checks run in this order, and the first failure is the answer: the
relations; then for each table in turn, a repeated table name, its columns, its indexes, and
enum columns that name an enum the snapshot does not declare. A successful run also writes a
summary text.
-/

namespace SchemaNorm

/-- The enums of a snapshot, in entry order. -/
def Graph.enumerations (g : Graph) : List Enumeration :=
  g.enums.map fun e => ⟨e.binding, e.name, e.values⟩

/-- Fails on the first enum column of the table whose enum name is not declared. -/
def TableDeclaration.checkEnumLinks (t : TableDeclaration) (enums : List Enumeration) :
    Except NormalizeError Unit :=
  t.columns.forM fun d =>
    match d.storage, d.enumName with
    | .enum, some n =>
      if enums.any (·.canonicalName == n) then .ok ()
      else .error (.unclassifiableColumn t.name d.name d.storage.tag d.sqlType
        ("unknown enum '" ++ n ++ "'"))
    | _, _ => .ok ()

/-- The models of the tables in order; `seen` holds the names taken so far. -/
def assembleModels (r : Resolution) (enums : List Enumeration) :
    List String → List TableDeclaration → Except NormalizeError (List Model)
  | _, [] => .ok []
  | seen, t :: ts =>
    if t.name ∈ seen then .error (.duplicateModel t.name)
    else do
      let m ← t.assemble r
      t.checkEnumLinks enums
      let ms ← assembleModels r enums (t.name :: seen) ts
      pure (m :: ms)

/-- The summary text: models, enums and relations with their counts, warnings if any, and a
result line. -/
def summaryText (models : List Model) (enums : List Enumeration) (relations : List Relation)
    (warnings : List Warning) : String :=
  let rule := "===================================\n"
  let header := rule ++ "Successfully parsed schema graph!\n" ++ rule
  let modelLines := models.foldl (fun acc m => acc ++ "-> " ++ m.canonicalName ++ " (" ++
    toString m.columns.length ++ " columns, " ++ toString m.relations.length ++ " relations)\n") ""
  let enumLines := enums.foldl (fun acc e => acc ++ "-> " ++ e.canonicalName ++ " (" ++
    toString e.values.length ++ " values)\n") ""
  let relationLines := relations.foldl (fun acc r => acc ++ "* " ++ r.sourceModel ++ " <-> " ++
    r.referenceModel ++ " [kind: " ++ r.kind ++ ", direction: " ++ r.direction.tag ++ "]\n") ""
  let warningPart :=
    if warnings.isEmpty then ""
    else "WARNINGS (" ++ toString warnings.length ++ "):\n" ++
      warnings.foldl (fun acc w => acc ++ "! " ++ w.message ++ "\n") "" ++ "--\n"
  header ++
    "MODELS (" ++ toString models.length ++ "):\n" ++ modelLines ++ "--\n" ++
    "ENUMS (" ++ toString enums.length ++ "):\n" ++ enumLines ++ "--\n" ++
    "RELATIONS (" ++ toString relations.length ++ "):\n" ++ relationLines ++ "--\n" ++
    warningPart ++
    ">> RESULT <<:\n" ++
    "=> Models: " ++ toString models.length ++ ", enums: " ++ toString enums.length ++
      ", relations: " ++ toString relations.length ++ ".\n"

/-- Normalizes a snapshot under a policy for relations without key columns. -/
def Graph.normalize (policy : RelationPolicy) (g : Graph) : Except NormalizeError Schema := do
  let enums := g.enumerations
  let r ← g.resolve policy
  let models ← assembleModels r enums [] g.tables
  pure { models, enums, relations := r.relations, warnings := r.warnings
         summary := summaryText models enums r.relations r.warnings }

end SchemaNorm
