import SchemaNorm.Schema
import SchemaNorm.Error

/-!
Normalizing index declarations. An index must name columns. Its kind may be given by a tag
(`unique`, or `normal` and its synonym `index`), by a uniqueness flag, or by both when they
agree; with neither it is a normal index.
-/

namespace SchemaNorm

namespace IndexDeclaration

/-- The kind a tag names, if any. -/
def kindOfTag? : String → Option IndexKind
  | "unique" => some .unique
  | "normal" => some .normal
  | "index" => some .normal
  | _ => none

/-- The kind a uniqueness flag gives. -/
def kindOfFlag (unique : Bool) : IndexKind := if unique then .unique else .normal

/-- Normalizes one declaration of the given table. The checks run in order: columns, tag,
agreement of tag and flag. -/
def normalize (table : String) (i : IndexDeclaration) : Except NormalizeError Index :=
  if i.columns.isEmpty then .error (.ambiguousIndex table i.name "index has no columns")
  else
    match i.kind with
    | some tag =>
      match kindOfTag? tag with
      | none => .error (.unsupportedIndexKind table i.name tag)
      | some declared =>
        match i.unique with
        | some flag =>
          if declared ≠ kindOfFlag flag then
            .error (.ambiguousIndex table i.name
              ("kind '" ++ tag ++ "' contradicts unique flag " ++ toString flag))
          else .ok ⟨declared, i.name, i.columns⟩
        | none => .ok ⟨declared, i.name, i.columns⟩
    | none => .ok ⟨(i.unique.map kindOfFlag).getD .normal, i.name, i.columns⟩

end IndexDeclaration

/-- The normalized indexes of a table, in order; the first declaration that fails decides the
error. A table without an index list has no indexes. -/
def TableDeclaration.normalizedIndexes (t : TableDeclaration) : Except NormalizeError (List Index) :=
  match t.indexes with
  | none => .ok []
  | some declarations => declarations.mapM (IndexDeclaration.normalize t.name)

end SchemaNorm
