import SchemaNorm.Normalize
import SchemaNorm.Proofs.Columns
import SchemaNorm.Proofs.FirstFailure

/-!
The table pass. A table's model holds its columns classified and keyed by alias, the resolved
relations attached to it, and its indexes. The checks of one table run in a fixed order (its
name, its columns, its index declarations, its enum columns), and the pass stops at the first
failing check of the first table that fails one.
-/

namespace SchemaNorm

namespace ColumnDescriptor

theorem classification_enum {table : String} {d : ColumnDescriptor} {cl : Classification}
    (h : d.classification table = .ok cl) :
    (cl.type = .enum ↔ d.storage = .enum) ∧ (d.storage = .enum → d.enumName.isSome) := by
  cases hs : d.storage <;> simp only [classification, hs] at h
  case enum =>
    split at h
    · cases h
    · rename_i hn
      cases h
      exact ⟨iff_of_true rfl rfl, fun _ => Option.isSome_iff_ne_none.mpr (by simpa using hn)⟩
  case array =>
    split at h
    · cases h; simp
    · split at h
      · cases h; simp
      · cases h
  case custom =>
    split at h
    · cases h; simp
    · cases h
  case other => cases h
  all_goals cases h; simp

theorem toColumn_type (d : ColumnDescriptor) (cl : Classification) :
    (d.toColumn cl).type = cl.type := by
  unfold toColumn
  dsimp only
  split <;> rfl

theorem toColumn_enumName (d : ColumnDescriptor) (cl : Classification) :
    (d.toColumn cl).enumName = if cl.type = .enum then d.enumName else none := by
  unfold toColumn
  dsimp only
  split <;> rfl

/-- A classified column has type enum exactly when it is stored as an enum, and then it names
the enum its descriptor names; no other column names an enum. -/
theorem classify_enumName {table : String} {d : ColumnDescriptor} {c : Column}
    (h : d.classify table = .ok c) :
    (c.type = .enum → d.storage = .enum ∧ ∃ n, d.enumName = some n ∧ c.enumName = some n) ∧
      (c.type ≠ .enum → c.enumName = none) := by
  unfold classify at h
  obtain ⟨cl, hcl, h⟩ := bind_eq_ok.mp h
  cases h
  obtain ⟨htype, hname⟩ := classification_enum hcl
  rw [toColumn_type, toColumn_enumName]
  constructor
  · intro he
    have hs := htype.mp he
    obtain ⟨n, hn⟩ := Option.isSome_iff_exists.mp (hname hs)
    exact ⟨hs, n, hn, by rw [if_pos he, hn]⟩
  · intro hne
    rw [if_neg hne]

/-- The error for a column stored as an enum whose enum is not among the names given. -/
def enumLinkFailure (table : String) (enumNames : List String) (d : ColumnDescriptor) :
    Option NormalizeError :=
  match d.storage, d.enumName with
  | .enum, some n =>
    if n ∈ enumNames then none else some (d.unclassifiable table ("unknown enum '" ++ n ++ "'"))
  | _, _ => none

end ColumnDescriptor

namespace TableDeclaration

theorem errorOf_checkEnumLinks (t : TableDeclaration) (enums : List Enumeration) :
    errorOf (t.checkEnumLinks enums) =
      t.columns.findSome? (·.enumLinkFailure t.name (enums.map (·.canonicalName))) := by
  unfold checkEnumLinks
  rw [errorOf_forM]
  congr 1
  funext d
  unfold ColumnDescriptor.enumLinkFailure
  cases hs : d.storage <;> cases d.enumName <;> simp [ColumnDescriptor.unclassifiable, hs]
  split <;> rfl

theorem checkEnumLinks_eq_ok {t : TableDeclaration} {enums : List Enumeration}
    (h : t.checkEnumLinks enums = .ok ()) :
    ∀ d ∈ t.columns, d.storage = .enum → ∀ n, d.enumName = some n →
      n ∈ enums.map (·.canonicalName) := by
  intro d hd hs n hn
  have hnone : t.columns.findSome? (·.enumLinkFailure t.name (enums.map (·.canonicalName))) =
      none := by
    rw [← errorOf_checkEnumLinks, h]
    rfl
  have hd' := List.findSome?_eq_none_iff.mp hnone d hd
  simp only [ColumnDescriptor.enumLinkFailure, hs, hn] at hd'
  by_contra hmem
  rw [if_neg hmem] at hd'
  cases hd'

theorem errorOf_normalizedIndexes (t : TableDeclaration) :
    errorOf t.normalizedIndexes =
      (t.indexes.getD []).findSome? fun i => errorOf (i.normalize t.name) := by
  unfold normalizedIndexes
  cases t.indexes with
  | none => rfl
  | some ds => exact errorOf_mapM _ ds

/-- Assembling a model fails with the first column that cannot be classified, else with the
first index declaration that cannot be normalized. -/
theorem errorOf_assemble (t : TableDeclaration) (r : Resolution) :
    errorOf (t.assemble r) =
      (t.columns.findSome? fun d => errorOf (d.classify t.name)).or
        ((t.indexes.getD []).findSome? fun i => errorOf (i.normalize t.name)) := by
  unfold assemble
  rw [errorOf_bind_of_const (o := errorOf t.normalizedIndexes) fun _ => errorOf_bind_pure _ _,
    errorOf_mapM, errorOf_normalizedIndexes]

/-- An assembled model carries the table's name and binding, its columns classified and keyed
by alias with the last write winning, the relations attached to the table, and its indexes. -/
theorem assemble_eq_ok {t : TableDeclaration} {r : Resolution} {m : Model}
    (h : t.assemble r = .ok m) :
    m.canonicalName = t.name ∧ m.binding = t.binding ∧
      (∃ cs, t.columns.mapM (ColumnDescriptor.classify t.name) = .ok cs ∧
        LastWriteWins cs m.columns) ∧
      m.relations = r.attachedTo t.name ∧ t.normalizedIndexes = .ok m.indexes := by
  unfold assemble at h
  obtain ⟨cs, hcs, h⟩ := bind_eq_ok.mp h
  obtain ⟨is, hidx, h⟩ := bind_eq_ok.mp h
  cases h
  rw [Model.foldl_insertColumn]
  exact ⟨rfl, rfl, ⟨cs, hcs, Model.lastWriteWins_foldl cs⟩, rfl, hidx⟩

/-- Assembling a model reads the resolved relations only. -/
theorem assemble_congr {r r' : Resolution} (hr : r.relations = r'.relations)
    (t : TableDeclaration) : t.assemble r = t.assemble r' := by
  simp only [assemble, Resolution.attachedTo, hr]

/-- The failing checks of a table, in the order they run: its name taken by a table before it,
each column that cannot be classified, each index declaration that cannot be normalized, then
each column stored as an enum whose enum is not declared. -/
def failures (enumNames earlier : List String) (t : TableDeclaration) : List NormalizeError :=
  (if t.name ∈ earlier then [.duplicateModel t.name] else []) ++
    t.columns.filterMap (fun d => errorOf (d.classify t.name)) ++
    (t.indexes.getD []).filterMap (fun i => errorOf (i.normalize t.name)) ++
    t.columns.filterMap (·.enumLinkFailure t.name enumNames)

end TableDeclaration

/-- The failing checks of tables in order, each table checked against the names of the tables
before it. -/
def tableFailures (enumNames : List String) :
    List String → List TableDeclaration → List NormalizeError
  | _, [] => []
  | earlier, t :: ts =>
    t.failures enumNames earlier ++ tableFailures enumNames (t.name :: earlier) ts

section Models

variable {r : Resolution} {enums : List Enumeration}

/-- The table pass stops at the first failing check of the first table that fails one. -/
theorem errorOf_assembleModels (r : Resolution) (enums : List Enumeration) (seen : List String)
    (ts : List TableDeclaration) :
    errorOf (assembleModels r enums seen ts) =
      (tableFailures (enums.map (·.canonicalName)) seen ts).head? := by
  induction ts generalizing seen with
  | nil => rfl
  | cons t ts ih =>
    rw [assembleModels]
    -- a name taken earlier stops the pass before the table is assembled
    by_cases hdup : t.name ∈ seen
    · rw [if_pos hdup]
      simp [tableFailures, TableDeclaration.failures, hdup]
    · have hrest : ∀ m, errorOf (t.checkEnumLinks enums >>= fun _ =>
          assembleModels r enums (t.name :: seen) ts >>= fun ms => pure (m :: ms)) =
          (errorOf (t.checkEnumLinks enums)).or
            (errorOf (assembleModels r enums (t.name :: seen) ts)) :=
        fun _ => errorOf_bind_of_const fun _ => errorOf_bind_pure _ _
      rw [if_neg hdup, errorOf_bind_of_const hrest, TableDeclaration.errorOf_assemble,
        TableDeclaration.errorOf_checkEnumLinks, ih]
      simp [tableFailures, TableDeclaration.failures, hdup, Option.or_assoc]

/-- A table pass that succeeds gives one model per table, in order, assembled from it, after
its enum columns were checked; and no two tables share a name. -/
theorem assembleModels_eq_ok {seen : List String} {ts : List TableDeclaration} {ms : List Model}
    (h : assembleModels r enums seen ts = .ok ms) :
    List.Forall₂ (fun t m => t.assemble r = .ok m ∧ t.checkEnumLinks enums = .ok ()) ts ms ∧
      (ts.map (·.name)).Nodup ∧ ∀ t ∈ ts, t.name ∉ seen := by
  induction ts generalizing seen ms with
  | nil =>
    cases h
    exact ⟨.nil, List.nodup_nil, by simp⟩
  | cons t ts ih =>
    rw [assembleModels] at h
    split at h
    · cases h
    · rename_i hdup
      obtain ⟨m, hm, h⟩ := bind_eq_ok.mp h
      obtain ⟨⟨⟩, hc, h⟩ := bind_eq_ok.mp h
      obtain ⟨ms', hms, h⟩ := bind_eq_ok.mp h
      cases h
      -- the rest of the tables were checked against a list that names this one
      obtain ⟨hforall, hnodup, hfresh⟩ := ih hms
      have hnot : ∀ t' ∈ ts, t'.name ≠ t.name := fun t' ht' he =>
        hfresh t' ht' (List.mem_cons.mpr (.inl he))
      refine ⟨.cons ⟨hm, hc⟩ hforall, ?_, ?_⟩
      · rw [List.map_cons, List.nodup_cons]
        refine ⟨fun hmem => ?_, hnodup⟩
        obtain ⟨t', ht', he⟩ := List.mem_map.mp hmem
        exact hnot t' ht' he
      · intro t' ht'
        rcases List.mem_cons.mp ht' with rfl | ht'
        · exact hdup
        · exact fun hmem => hfresh t' ht' (List.mem_cons_of_mem _ hmem)

theorem canonicalNames_of_assembleModels {seen : List String} {ts : List TableDeclaration}
    {ms : List Model} (h : assembleModels r enums seen ts = .ok ms) :
    ms.map (·.canonicalName) = ts.map (·.name) := by
  have hforall := (assembleModels_eq_ok h).1
  clear h
  induction hforall with
  | nil => rfl
  | cons hm _ ih => rw [List.map_cons, List.map_cons, (TableDeclaration.assemble_eq_ok hm.1).1, ih]

/-- The table pass reads the resolved relations only. -/
theorem assembleModels_congr {r r' : Resolution} (hr : r.relations = r'.relations)
    (enums : List Enumeration) (seen : List String) (ts : List TableDeclaration) :
    assembleModels r enums seen ts = assembleModels r' enums seen ts := by
  induction ts generalizing seen with
  | nil => rfl
  | cons t ts ih => simp only [assembleModels, TableDeclaration.assemble_congr hr, ih]

end Models

end SchemaNorm
