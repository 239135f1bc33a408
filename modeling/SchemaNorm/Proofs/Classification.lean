import SchemaNorm.Classify
import SchemaNorm.Proofs.Tables

/-!
Classifying a column descriptor. A descriptor can be classified when its storage kind is one
the normalizer knows, and, for the three kinds that need more, when an enum names its enum, an
array's trimmed SQL type is `text[]` or `jsonb[]`, and a custom column's is `bytea`. A refused
descriptor is reported with its table, its name, its storage tag and its SQL type as written. A
classified column keeps the descriptor's names and constraints; it is an array exactly when it
is stored as one, and then of texts or JSON values; it gets a generated identifier exactly when
it is a text primary key without a default value, which also gives it a default.

Main statement: `ColumnDescriptor.classify_eq_ok_iff_classifiable`.
-/

namespace SchemaNorm

namespace ColumnDescriptor

/-- When a descriptor can be classified: its storage kind is known, an enum column names its
enum, an array holds texts or JSON values, and a custom column holds bytes. -/
def Classifiable (d : ColumnDescriptor) : Prop :=
  (∀ raw, d.storage ≠ .other raw) ∧
  (d.storage = .enum → d.enumName.isSome) ∧
  (d.storage = .array → Text.trim d.sqlType = "text[]" ∨ Text.trim d.sqlType = "jsonb[]") ∧
  (d.storage = .custom → Text.trim d.sqlType = "bytea")

/-- What a column classified from a descriptor carries over from it and derives from it. -/
structure ClassifiedFrom (d : ColumnDescriptor) (c : Column) : Prop where
  aliasName : c.aliasName = d.aliasName
  canonicalName : c.canonicalName = d.name
  isNullable : c.isNullable = !d.notNull
  isPrimary : c.isPrimary = d.primary
  isUnique : c.isUnique = d.unique
  isUpdatedAt : c.isUpdatedAt = d.updatedAt
  defaultValue : c.defaultValue = d.defaultValue
  isArray : c.isArray = true ↔ d.storage = .array
  arrayType : c.isArray = true → c.type = .text ∨ c.type = .json
  hasGeneratedId :
    c.hasGeneratedId = true ↔ d.storage = .text ∧ d.primary = true ∧ d.defaultValue = none
  hasDefault : c.hasDefault = (d.hasDefault || c.hasGeneratedId)
  enumName : c.enumName = if c.type = .enum then d.enumName else none
  lengthHint :
    c.lengthHint = if c.type = .varchar then d.length.orElse fun _ => lengthHint? d.sqlType
      else none

variable {table : String} {d : ColumnDescriptor}

theorem classification_isOk_iff :
    (∃ cl, d.classification table = .ok cl) ↔ d.Classifiable := by
  cases hs : d.storage <;> simp only [classification, Classifiable, hs]
  case enum =>
    split
    · rename_i hn
      simp [Option.isNone_iff_eq_none.mp hn]
    · rename_i hn
      simpa using Option.ne_none_iff_isSome.mp (by simpa using hn)
  case array =>
    split
    · simp_all
    · split <;> simp_all
  case custom => split <;> simp_all
  case other raw => simp
  all_goals simp

/-- A refused descriptor is reported with its table, name, storage tag and SQL type. -/
theorem classification_eq_error {e : NormalizeError}
    (h : d.classification table = .error e) : ∃ reason, e = d.unclassifiable table reason := by
  cases hs : d.storage <;> simp only [classification, hs] at h
  case enum =>
    split at h
    · cases h
      exact ⟨_, rfl⟩
    · cases h
  case custom =>
    split at h
    · cases h
    · cases h
      exact ⟨_, rfl⟩
  case array =>
    split at h
    · cases h
    · split at h
      · cases h
      · cases h
        exact ⟨_, rfl⟩
  case other =>
    cases h
    exact ⟨_, rfl⟩
  all_goals cases h

/-- Only a column stored as an array is an array, of texts or JSON values; a text column that
is no array is one stored as text. -/
theorem classification_isArray {cl : Classification} (h : d.classification table = .ok cl) :
    (cl.isArray = true ↔ d.storage = .array) ∧
      (cl.isArray = true → cl.type = .text ∨ cl.type = .json) ∧
      (cl.type = .text ∧ cl.isArray = false ↔ d.storage = .text) := by
  cases hs : d.storage <;> simp only [classification, hs] at h
  case enum =>
    split at h
    · cases h
    · cases h
      simp
  case array =>
    split at h
    · cases h
      simp
    · split at h
      · cases h
        simp
      · cases h
  case custom =>
    split at h
    · cases h
      simp
    · cases h
  case other => cases h
  all_goals
    cases h
    simp

/-- A column built from a classification of its descriptor carries what the descriptor says. -/
theorem toColumn_classifiedFrom {cl : Classification} (h : d.classification table = .ok cl) :
    ClassifiedFrom d (d.toColumn cl) := by
  obtain ⟨harray, harrayType, htext⟩ := classification_isArray h
  unfold toColumn
  dsimp only
  split
  · rename_i hgen
    -- a text primary key that is no array and has no default value
    obtain ⟨htype, hprimary, hscalar, hnone⟩ := hgen
    have hs : d.storage = .text := htext.mp ⟨htype, by simpa using hscalar⟩
    exact
      { aliasName := rfl, canonicalName := rfl, isNullable := rfl, isPrimary := rfl,
        isUnique := rfl, isUpdatedAt := rfl, defaultValue := rfl, isArray := harray,
        arrayType := harrayType
        hasGeneratedId := iff_of_true rfl ⟨hs, hprimary, Option.isNone_iff_eq_none.mp hnone⟩
        hasDefault := by simp, enumName := rfl, lengthHint := rfl }
  · rename_i hgen
    have hno : ¬ (d.storage = .text ∧ d.primary = true ∧ d.defaultValue = none) := by
      rintro ⟨hs, hprimary, hnone⟩
      obtain ⟨htype, hscalar⟩ := htext.mpr hs
      exact hgen ⟨htype, hprimary, by simp [hscalar], by simp [hnone]⟩
    exact
      { aliasName := rfl, canonicalName := rfl, isNullable := rfl, isPrimary := rfl,
        isUnique := rfl, isUpdatedAt := rfl, defaultValue := rfl, isArray := harray,
        arrayType := harrayType, hasGeneratedId := iff_of_false (by simp) hno
        hasDefault := by simp, enumName := rfl, lengthHint := rfl }

theorem classify_eq_ok_iff {c : Column} :
    d.classify table = .ok c ↔ ∃ cl, d.classification table = .ok cl ∧ d.toColumn cl = c := by
  unfold classify
  cases d.classification table <;> simp [Except.map]

theorem classify_eq_error_iff {e : NormalizeError} :
    d.classify table = .error e ↔ d.classification table = .error e := by
  unfold classify
  cases d.classification table <;> simp [Except.map]

/-- Classifying a descriptor succeeds exactly when it is classifiable. A refusal names the
table, the column, its storage tag and its SQL type as written; a classified column carries
over the descriptor's names and constraints and derives its array flag, generated identifier,
default, enum name and length hint from them. -/
theorem classify_eq_ok_iff_classifiable (table : String) (d : ColumnDescriptor) :
    ((∃ c, d.classify table = .ok c) ↔ d.Classifiable) ∧
    (∀ e, d.classify table = .error e →
      ∃ reason, e = .unclassifiableColumn table d.name d.storage.tag d.sqlType reason) ∧
    (∀ c, d.classify table = .ok c → ClassifiedFrom d c) := by
  refine ⟨?_, fun e he => classification_eq_error (classify_eq_error_iff.mp he), fun c hc => ?_⟩
  · simp only [classify_eq_ok_iff]
    rw [← classification_isOk_iff]
    exact ⟨fun ⟨_, cl, hcl, _⟩ => ⟨cl, hcl⟩, fun ⟨cl, hcl⟩ => ⟨_, cl, hcl, rfl⟩⟩
  · obtain ⟨cl, hcl, rfl⟩ := classify_eq_ok_iff.mp hc
    exact toColumn_classifiedFrom hcl

end ColumnDescriptor

end SchemaNorm
