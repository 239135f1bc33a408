import SchemaNorm.Indexes
import SchemaNorm.Proofs.FirstFailure

/-!
Index declarations and the kinds of their indexes. A declaration is refused for the first of
three reasons: it names no columns, its kind tag is not one of `unique`, `normal` and `index`,
or it has both a tag and a uniqueness flag and they disagree. A table's declarations are
normalized in order and the first refused one decides the error; otherwise each declaration
gives one index with its name and columns, unique exactly when its tag is `unique`, or when it
has no tag and its flag is set.

Main statement: `TableDeclaration.normalizedIndexes_first_refused`.
-/

namespace SchemaNorm

namespace IndexDeclaration

/-- The tags an index kind may be given by. -/
def knownTags : List String := ["unique", "normal", "index"]

/-- The kind of an accepted declaration: unique when its tag says so, or when it has no tag and
its flag is set. -/
def declaredKind (i : IndexDeclaration) : IndexKind :=
  if i.kind = some "unique" ∨ (i.kind = none ∧ i.unique = some true) then .unique else .normal

/-- The index an accepted declaration gives. -/
def index (i : IndexDeclaration) : Index := ⟨i.declaredKind, i.name, i.columns⟩

/-- Why a declaration of the given table is refused, each reason with the error it gives. A
later reason only counts when the earlier ones do not apply. -/
inductive Refused (table : String) (i : IndexDeclaration) : NormalizeError → Prop
  | noColumns : i.columns = [] →
      Refused table i (.ambiguousIndex table i.name "index has no columns")
  | unknownTag {tag : String} : i.columns ≠ [] → i.kind = some tag → tag ∉ knownTags →
      Refused table i (.unsupportedIndexKind table i.name tag)
  | contradicted {tag : String} {flag : Bool} : i.columns ≠ [] → i.kind = some tag →
      tag ∈ knownTags → i.unique = some flag → decide (tag = "unique") ≠ flag →
      Refused table i
        (.ambiguousIndex table i.name
          ("kind '" ++ tag ++ "' contradicts unique flag " ++ toString flag))

/-- A declaration that is refused for no reason. -/
def Accepted (table : String) (i : IndexDeclaration) : Prop := ∀ e, ¬ Refused table i e

theorem kindOfTag?_eq_none_iff {tag : String} : kindOfTag? tag = none ↔ tag ∉ knownTags := by
  unfold kindOfTag?
  split <;> simp_all [knownTags]

theorem kindOfTag?_of_mem {tag : String} (h : tag ∈ knownTags) :
    kindOfTag? tag = some (if tag = "unique" then .unique else .normal) := by
  simp only [knownTags, List.mem_cons, List.not_mem_nil, or_false] at h
  rcases h with rfl | rfl | rfl <;> rfl

/-- A known tag and a flag disagree exactly when the tag says `unique` and the flag does not, or
the other way round. -/
theorem kindOfTag_ne_kindOfFlag_iff (tag : String) (flag : Bool) :
    (if tag = "unique" then IndexKind.unique else .normal) ≠ kindOfFlag flag ↔
      decide (tag = "unique") ≠ flag := by
  by_cases hu : tag = "unique" <;> cases flag <;> simp [hu, kindOfFlag]

theorem normalize_of_refused {table : String} {i : IndexDeclaration} {e : NormalizeError}
    (h : Refused table i e) : i.normalize table = .error e := by
  cases h with
  | noColumns hc => simp [normalize, hc]
  | unknownTag hc hk hnot =>
    simp [normalize, hc, hk, kindOfTag?_eq_none_iff.mpr hnot]
  | contradicted hc hk hmem hu hne =>
    simp [normalize, hc, hk, kindOfTag?_of_mem hmem, hu,
      (kindOfTag_ne_kindOfFlag_iff _ _).mpr hne]

theorem normalize_of_accepted {table : String} {i : IndexDeclaration} (h : Accepted table i) :
    i.normalize table = .ok i.index := by
  have hc : i.columns ≠ [] := fun hc => h _ (.noColumns hc)
  cases hk : i.kind with
  | none =>
    cases hu : i.unique with
    | none => simp [normalize, hc, hk, hu, index, declaredKind]
    | some flag => cases flag <;> simp [normalize, hc, hk, hu, index, declaredKind, kindOfFlag]
  | some tag =>
    -- the tag is known, and agrees with the flag when there is one
    have hmem : tag ∈ knownTags :=
      Classical.byContradiction fun hnot => h _ (.unknownTag hc hk hnot)
    have hagree : ∀ flag, i.unique = some flag → decide (tag = "unique") = flag :=
      fun flag hu => Classical.byContradiction fun hne => h _ (.contradicted hc hk hmem hu hne)
    have hkind : i.declaredKind = if tag = "unique" then .unique else .normal := by
      by_cases hu : tag = "unique" <;> simp [declaredKind, hk, hu]
    cases hu : i.unique with
    | none => simp [normalize, hc, hk, hu, kindOfTag?_of_mem hmem, index, hkind]
    | some flag =>
      have hsame := (kindOfTag_ne_kindOfFlag_iff tag flag).not.mpr (not_not.mpr (hagree flag hu))
      simp [normalize, hc, hk, hu, kindOfTag?_of_mem hmem, index, hkind, not_not.mp hsame]

/-- Normalizing a declaration fails exactly with the error of the reason it is refused for. -/
theorem normalize_eq_error_iff {table : String} {i : IndexDeclaration} {e : NormalizeError} :
    i.normalize table = .error e ↔ Refused table i e := by
  refine ⟨fun h => ?_, normalize_of_refused⟩
  by_cases hr : ∃ e', Refused table i e'
  · obtain ⟨e', hr⟩ := hr
    rw [normalize_of_refused hr] at h
    cases h
    exact hr
  · rw [normalize_of_accepted fun e' he' => hr ⟨e', he'⟩] at h
    cases h

theorem errorOf_normalize_eq_none_iff {table : String} {i : IndexDeclaration} :
    errorOf (i.normalize table) = none ↔ Accepted table i := by
  rw [errorOf_eq_none_iff]
  constructor
  · rintro ⟨x, hx⟩ e he
    rw [normalize_of_refused he] at hx
    cases hx
  · intro h
    exact ⟨_, normalize_of_accepted h⟩

end IndexDeclaration

namespace TableDeclaration

open IndexDeclaration

/-- A table without an index list has no indexes. Otherwise its declarations are normalized in
order: the first refused one decides the error, and when none is refused each gives its index,
unique exactly when its tag is `unique` or, without a tag, its flag is set. -/
theorem normalizedIndexes_first_refused (t : TableDeclaration) :
    (t.indexes = none → t.normalizedIndexes = .ok []) ∧
    (∀ e, t.normalizedIndexes = .error e ↔
      ∃ before i after, t.indexes = some (before ++ i :: after) ∧
        (∀ j ∈ before, j.Accepted t.name) ∧ i.Refused t.name e) ∧
    (∀ ds is, t.indexes = some ds →
      (t.normalizedIndexes = .ok is ↔ (∀ j ∈ ds, j.Accepted t.name) ∧ is = ds.map index)) := by
  refine ⟨fun h => by simp [normalizedIndexes, h], fun e => ?_, fun ds is hds => ?_⟩
  · cases hds : t.indexes with
    | none => simp [normalizedIndexes, hds]
    | some ds =>
      simp only [normalizedIndexes, hds, mapM_eq_error_iff, errorOf_normalize_eq_none_iff,
        normalize_eq_error_iff, Option.some.injEq]
  · have hmapM : ds.mapM (normalize t.name) = .ok is ↔
        (∀ j ∈ ds, j.Accepted t.name) ∧ is = ds.map index := by
      constructor
      · intro h
        -- no declaration fails, so each gives its index
        have hall : ∀ j ∈ ds, j.Accepted t.name := by
          have hnone := (errorOf_mapM (normalize t.name) ds).symm.trans (by rw [h])
          exact fun j hj =>
            errorOf_normalize_eq_none_iff.mp (List.findSome?_eq_none_iff.mp hnone j hj)
        rw [mapM_eq_ok_map fun j hj => normalize_of_accepted (hall j hj)] at h
        cases h
        exact ⟨hall, rfl⟩
      · rintro ⟨hall, rfl⟩
        exact mapM_eq_ok_map fun j hj => normalize_of_accepted (hall j hj)
    simpa only [normalizedIndexes, hds] using hmapM

end TableDeclaration

end SchemaNorm
