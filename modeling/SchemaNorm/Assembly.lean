import SchemaNorm.Classify
import SchemaNorm.Indexes
import SchemaNorm.Relations

/-!
Assembling a model from a table declaration: its columns classified and inserted by alias
in order (a later column replaces an earlier one with its alias), the resolved relations
attached to it, and its indexes. The first failing column, else the first failing index,
decides the error.
-/

namespace SchemaNorm

/-- The model of a table, given the resolved relations. -/
def TableDeclaration.assemble (t : TableDeclaration) (r : Resolution) :
    Except NormalizeError Model := do
  let columns ← t.columns.mapM (ColumnDescriptor.classify t.name)
  let model := columns.foldl (fun m c => (m.insertColumn c).1)
    ({ canonicalName := t.name, binding := t.binding } : Model)
  let indexes ← t.normalizedIndexes
  pure { model with relations := r.attachedTo t.name, indexes }

end SchemaNorm
