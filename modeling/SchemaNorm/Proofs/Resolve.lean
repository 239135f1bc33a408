import Mathlib.Data.List.Pairwise
import SchemaNorm.Proofs.FirstFailure
import SchemaNorm.Proofs.Dedup

/-!
The relation pass. Its two nested loops are one left fold over the descriptors of the snapshot,
in entry order and then declaration order. Whether a descriptor stops the pass is decided by the
descriptor, its set and the snapshot's tables alone, so the pass stops at the first descriptor
that fails. When no descriptor fails, the relations are the resolved one-row relations followed
by the collection relations, each distinct relation once at its first occurrence.
-/

namespace SchemaNorm

namespace Graph

/-- The descriptors of a snapshot's relation sets, each with its set, in entry order and then
declaration order. -/
def relationDescriptors (g : Graph) : List (RelationSet × RelationDescriptor) :=
  g.relationSets.flatMap fun s => s.relations.map (s, ·)

end Graph

namespace RelationDescriptor

/-- A one-row relation whose key cannot be found: its settings do not give both key column
lists, and the first table named by its source, if there is one, has no foreign key to the
referenced table. -/
def Unkeyed (g : Graph) (source : String) (d : RelationDescriptor) : Prop :=
  ((d.config.getD {}).fields = [] ∨ (d.config.getD {}).references = []) ∧
    ∀ t ∈ g.tableNamed? source, ∀ fk ∈ t.foreignKeys, fk.foreignTable ≠ d.referencedTable

instance (g : Graph) (source : String) (d : RelationDescriptor) : Decidable (d.Unkeyed g source) :=
  inferInstanceAs (Decidable (_ ∧ _))

/-- Why a descriptor of a relation set stops the relation pass under a policy, if it does: a
cardinality that is neither `one` nor `many`, or, when unresolved relations are errors, a
one-row relation without a key. -/
def failure (p : RelationPolicy) (g : Graph) (s : RelationSet) (d : RelationDescriptor) :
    Option NormalizeError :=
  match d.cardinality with
  | .other raw => some (.malformedRelation (d.sourceIn s) d.name raw)
  | .many => none
  | .one =>
    if p = .error ∧ d.Unkeyed g (d.sourceIn s) then
      some (.unresolvedRelationFields (d.sourceIn s) d.name d.referencedTable)
    else none

/-- The collection relation a descriptor of a set declares, seen from its source. -/
def manyRelation (s : RelationSet) (d : RelationDescriptor) : ManyRelation :=
  ⟨d.name, d.sourceIn s, d.referencedTable, .outbound⟩

theorem foreignKey_eq_none_iff {g : Graph} {source referenced : String} :
    ((g.tableNamed? source).bind fun t => t.foreignKeys.find? (·.foreignTable == referenced)) =
        none ↔
      ∀ t ∈ g.tableNamed? source, ∀ fk ∈ t.foreignKeys, fk.foreignTable ≠ referenced := by
  cases g.tableNamed? source with
  | none => simp
  | some t => simp [List.find?_eq_none]

/-- A one-row relation fails to resolve exactly when unresolved relations are errors and it has
no key. -/
theorem errorOf_resolveOne (p : RelationPolicy) (g : Graph) (source : String)
    (d : RelationDescriptor) :
    errorOf (d.resolveOne p g source) =
      if p = .error ∧ d.Unkeyed g source then
        some (.unresolvedRelationFields source d.name d.referencedTable)
      else none := by
  simp only [resolveOne]
  -- keys given in the settings come first; only without them is a foreign key looked up
  by_cases hkeys : (d.config.getD {}).fields = [] ∨ (d.config.getD {}).references = []
  · have hcond : ((d.config.getD {}).fields.isEmpty || (d.config.getD {}).references.isEmpty) =
        true := by simpa using hkeys
    rw [if_pos hcond]
    cases hfk : (g.tableNamed? source).bind
        fun t => t.foreignKeys.find? (·.foreignTable == d.referencedTable) with
    | some fk =>
      have hkeyed : ¬d.Unkeyed g source := fun h => by
        rw [Unkeyed, ← foreignKey_eq_none_iff, hfk] at h
        cases h.2
      rw [if_neg fun h => hkeyed h.2]
      rfl
    | none =>
      have hunkeyed : d.Unkeyed g source := ⟨hkeys, foreignKey_eq_none_iff.mp hfk⟩
      cases p with
      | error => rw [if_pos ⟨rfl, hunkeyed⟩]; rfl
      | warn => rw [if_neg fun h => nomatch h.1]; rfl
  · have hcond : ((d.config.getD {}).fields.isEmpty || (d.config.getD {}).references.isEmpty) =
        false := by simpa using hkeys
    rw [if_neg (by simp [hcond]), if_neg fun h => hkeys h.2.1]
    rfl

theorem resolveOne_direction {p : RelationPolicy} {g : Graph} {source : String}
    {d : RelationDescriptor} {o : OneRelation × Option Warning}
    (h : d.resolveOne p g source = .ok o) : o.1.direction = .outbound := by
  simp only [resolveOne] at h
  split at h
  · split at h
    · cases h
      rfl
    · split at h
      · cases h
      · cases h
        rfl
  · cases h
    rfl

/-- Resolving a one-row relation reads the snapshot only through its tables. -/
theorem resolveOne_congr {p : RelationPolicy} {g g' : Graph} (htables : g.tables = g'.tables)
    (source : String) (d : RelationDescriptor) :
    d.resolveOne p g source = d.resolveOne p g' source := by
  simp only [resolveOne, Graph.tableNamed?, htables]

end RelationDescriptor

section Pass

variable {p : RelationPolicy} {g : Graph}

theorem errorOf_resolveDescriptor (p : RelationPolicy) (g : Graph) (s : RelationSet)
    (st : ResolutionState) (d : RelationDescriptor) :
    errorOf (resolveDescriptor p g s st d) = d.failure p g s := by
  unfold resolveDescriptor RelationDescriptor.failure
  cases d.cardinality with
  | one =>
    dsimp only
    rw [errorOf_bind_of_const (o := none) fun ⟨_, _⟩ => rfl, Option.or_none,
      RelationDescriptor.errorOf_resolveOne]
  | many => rfl
  | other raw => rfl

/-- What one descriptor does to the state of a pass that goes on: a one-row relation is resolved
and recorded with its warning, a collection relation is recorded as declared. -/
theorem resolveDescriptor_eq_ok {s : RelationSet} {st st' : ResolutionState}
    {d : RelationDescriptor} (h : resolveDescriptor p g s st d = .ok st') :
    (d.cardinality = .one ∧ ∃ o, d.resolveOne p g (d.sourceIn s) = .ok o ∧
        st' = { st with ones := st.ones ++ [.one o.1], warnings := st.warnings ++ o.2.toList }) ∨
      (d.cardinality = .many ∧ st' = { st with manys := st.manys ++ [.many (d.manyRelation s)] })
    := by
  unfold resolveDescriptor at h
  dsimp only at h
  split at h
  · rename_i hc
    obtain ⟨⟨r, w⟩, ho, h⟩ := bind_eq_ok.mp h
    cases h
    exact .inl ⟨hc, (r, w), ho, rfl⟩
  · rename_i hc
    cases h
    exact .inr ⟨hc, rfl⟩
  · cases h

/-- The relation pass's two loops, over the sets and over each set's descriptors, are one fold
over the descriptors with their sets. -/
theorem foldlM_relationSets (p : RelationPolicy) (g : Graph) (sets : List RelationSet)
    (st : ResolutionState) :
    sets.foldlM (fun st s => s.relations.foldlM (resolveDescriptor p g s) st) st =
      (sets.flatMap fun s => s.relations.map (s, ·)).foldlM
        (fun st x => resolveDescriptor p g x.1 st x.2) st := by
  induction sets generalizing st with
  | nil => rfl
  | cons s ss ih =>
    rw [List.foldlM_cons, List.flatMap_cons, List.foldlM_append, List.foldlM_map]
    congr 1
    funext st'
    exact ih st'

/-- The relation pass stops at the first descriptor that fails. -/
theorem errorOf_resolve (p : RelationPolicy) (g : Graph) :
    errorOf (g.resolve p) = g.relationDescriptors.findSome? fun x => x.2.failure p g x.1 := by
  unfold Graph.resolve
  rw [errorOf_bind_pure, foldlM_relationSets,
    errorOf_foldlM fun st x => errorOf_resolveDescriptor p g x.1 st x.2]
  rfl

/-- What a pass over descriptors that runs to the end has recorded: the one-row descriptors
resolved in order, with their warnings, and the collection descriptors in order. -/
theorem foldlM_resolveDescriptor_eq_ok {xs : List (RelationSet × RelationDescriptor)}
    {st st' : ResolutionState}
    (h : xs.foldlM (fun st x => resolveDescriptor p g x.1 st x.2) st = .ok st') :
    ∃ ones : List (OneRelation × Option Warning),
      (xs.filter (·.2.cardinality == .one)).mapM
          (fun x => x.2.resolveOne p g (x.2.sourceIn x.1)) = .ok ones ∧
      st'.ones = st.ones ++ ones.map (fun o => .one o.1) ∧
      st'.manys = st.manys ++
        (xs.filter (·.2.cardinality == .many)).map (fun x => .many (x.2.manyRelation x.1)) ∧
      st'.warnings = st.warnings ++ ones.flatMap (·.2.toList) := by
  induction xs generalizing st with
  | nil =>
    cases h
    exact ⟨[], rfl, by simp, by simp, by simp⟩
  | cons x xs ih =>
    rw [List.foldlM_cons] at h
    obtain ⟨st₁, hx, h⟩ := bind_eq_ok.mp h
    obtain ⟨ones, hones, hst_ones, hst_manys, hst_warnings⟩ := ih h
    -- the head descriptor either adds a resolved one-row relation or a collection relation
    rcases resolveDescriptor_eq_ok hx with ⟨hc, o, ho, rfl⟩ | ⟨hc, rfl⟩
    · refine ⟨o :: ones, ?_, ?_, ?_, ?_⟩
      · rw [List.filter_cons_of_pos (by simp [hc]), List.mapM_cons, ho, hones]
        rfl
      · simp [hst_ones]
      · simp [hc, hst_manys]
      · simp [hst_warnings]
    · refine ⟨ones, ?_, ?_, ?_, ?_⟩
      · rw [List.filter_cons_of_neg (by simp [hc]), hones]
      · simp [hst_ones]
      · simp [hc, hst_manys]
      · simp [hst_warnings]

end Pass

namespace Graph

/-- The one-row descriptors resolved in encounter order, each with the warning it raised. -/
def resolveOnes (p : RelationPolicy) (g : Graph) :
    Except NormalizeError (List (OneRelation × Option Warning)) :=
  (g.relationDescriptors.filter (·.2.cardinality == .one)).mapM fun x =>
    x.2.resolveOne p g (x.2.sourceIn x.1)

/-- The collection relations of the collection descriptors, in encounter order. -/
def manyRelations (g : Graph) : List Relation :=
  (g.relationDescriptors.filter (·.2.cardinality == .many)).map fun x =>
    .many (x.2.manyRelation x.1)

end Graph

section Success

variable {p : RelationPolicy} {g : Graph} {r : Resolution}

/-- A relation pass that succeeds has resolved every one-row descriptor; its relations are those
one-row relations followed by the collection relations, each distinct relation once at its first
occurrence, and its warnings are those the one-row descriptors raised, in order. -/
theorem resolve_eq_ok (h : g.resolve p = .ok r) :
    ∃ ones, g.resolveOnes p = .ok ones ∧
      r.relations = (ones.map (fun o => Relation.one o.1) ++ g.manyRelations).eraseDups ∧
      r.warnings = ones.flatMap (·.2.toList) := by
  unfold Graph.resolve at h
  rw [foldlM_relationSets] at h
  obtain ⟨st, hfold, h⟩ := bind_eq_ok.mp h
  cases h
  obtain ⟨ones, hones, hst_ones, hst_manys, hst_warnings⟩ := foldlM_resolveDescriptor_eq_ok hfold
  refine ⟨ones, hones, ?_, ?_⟩
  · rw [dedupKeepFirst_nil_eq_eraseDups, hst_ones, hst_manys]
    rfl
  · rw [hst_warnings]
    rfl

theorem mem_relations_of_resolve (h : g.resolve p = .ok r) {x : Relation} :
    x ∈ r.relations ↔
      (∃ o, (∃ d ∈ g.relationDescriptors.filter (·.2.cardinality == .one),
          d.2.resolveOne p g (d.2.sourceIn d.1) = .ok o) ∧ x = .one o.1) ∨
        x ∈ g.manyRelations := by
  obtain ⟨ones, hones, hrel, -⟩ := resolve_eq_ok h
  rw [hrel, List.mem_eraseDups, List.mem_append]
  constructor
  · rintro (hx | hx)
    · obtain ⟨o, ho, rfl⟩ := List.mem_map.mp hx
      exact .inl ⟨o, exists_of_mem_mapM hones ho, rfl⟩
    · exact .inr hx
  · rintro (⟨o, ⟨d, hd, ho⟩, rfl⟩ | hx)
    · exact .inl (List.mem_map_of_mem (mem_of_mapM_ok hones hd ho))
    · exact .inr hx

/-- Every relation of a pass is seen from the side that declares it. -/
theorem direction_of_resolve (h : g.resolve p = .ok r) :
    ∀ x ∈ r.relations, x.direction = .outbound := by
  intro x hx
  rcases (mem_relations_of_resolve h).mp hx with ⟨o, ⟨d, -, ho⟩, rfl⟩ | hx
  · exact RelationDescriptor.resolveOne_direction ho
  · obtain ⟨d, -, rfl⟩ := List.mem_map.mp hx
    rfl

theorem nodup_of_resolve (h : g.resolve p = .ok r) : r.relations.Nodup := by
  obtain ⟨ones, -, hrel, -⟩ := resolve_eq_ok h
  rw [hrel]
  exact nodup_eraseDups _

/-- No collection relation comes before a one-row relation. -/
theorem ones_before_manys_of_resolve (h : g.resolve p = .ok r) :
    r.relations.Pairwise fun a b => b.isOne → a.isOne := by
  obtain ⟨ones, -, hrel, -⟩ := resolve_eq_ok h
  have hones : ∀ a ∈ (ones.map fun o => Relation.one o.1).eraseDups, a.isOne := by
    intro a ha
    obtain ⟨o, -, rfl⟩ := List.mem_map.mp (List.mem_eraseDups.mp ha)
    rfl
  have hmanys : ∀ b ∈ (g.manyRelations.removeAll (ones.map fun o => Relation.one o.1)).eraseDups,
      b.isOne = false := by
    intro b hb
    obtain ⟨d, -, rfl⟩ := List.mem_map.mp (List.mem_filter.mp (List.mem_eraseDups.mp hb)).1
    rfl
  -- the one-row relations are kept first, then the collection relations not among them
  rw [hrel, List.eraseDups_append]
  refine List.pairwise_append.mpr ⟨?_, ?_, fun a ha _ _ _ => hones a ha⟩
  · exact List.pairwise_of_forall_mem_list fun a ha _ _ _ => hones a ha
  · exact List.pairwise_of_forall_mem_list fun _ _ b hb hone => by simp [hmanys b hb] at hone

end Success

namespace Graph

@[simp] theorem tables_push_relations (g : Graph) (s : RelationSet) :
    (g.push (.relations s)).tables = g.tables := by
  simp [push, tables, Entry.table?]

@[simp] theorem relationDescriptors_push_relations (g : Graph) (s : RelationSet) :
    (g.push (.relations s)).relationDescriptors =
      g.relationDescriptors ++ s.relations.map (s, ·) := by
  simp [push, relationDescriptors, relationSets, Entry.relationSet?]

end Graph

theorem RelationDescriptor.failure_congr {g g' : Graph} (htables : g.tables = g'.tables)
    (p : RelationPolicy) (s : RelationSet) (d : RelationDescriptor) :
    d.failure p g s = d.failure p g' s := by
  have hkeyed : ∀ source, d.Unkeyed g source ↔ d.Unkeyed g' source := by
    simp only [RelationDescriptor.Unkeyed, Graph.tableNamed?, htables, implies_true]
  unfold RelationDescriptor.failure
  simp only [hkeyed]

section Repeat

variable {p : RelationPolicy} {g : Graph} {r : Resolution}

theorem mem_relationDescriptors {s : RelationSet} (hs : s ∈ g.relationSets) {x}
    (hx : x ∈ s.relations.map (s, ·)) : x ∈ g.relationDescriptors := by
  obtain ⟨d, hd, rfl⟩ := List.mem_map.mp hx
  exact List.mem_flatMap.mpr ⟨s, hs, List.mem_map_of_mem hd⟩

theorem mem_filter_relationDescriptors {s : RelationSet} (hs : s ∈ g.relationSets)
    (q : RelationSet × RelationDescriptor → Bool) {x} (hx : x ∈ (s.relations.map (s, ·)).filter q) :
    x ∈ g.relationDescriptors.filter q := by
  obtain ⟨hmem, hq⟩ := List.mem_filter.mp hx
  exact List.mem_filter.mpr ⟨mem_relationDescriptors hs hmem, hq⟩

/-- A pass that succeeded succeeds again with one of the snapshot's relation sets repeated:
the repeated descriptors fail no check the first pass made of them. -/
theorem resolve_push_relationSet_ok (h : g.resolve p = .ok r) {s : RelationSet}
    (hs : s ∈ g.relationSets) : ∃ r', (g.push (.relations s)).resolve p = .ok r' := by
  have hnone : g.relationDescriptors.findSome? (fun x => x.2.failure p g x.1) = none := by
    rw [← errorOf_resolve, h]
    rfl
  apply errorOf_eq_none_iff.mp
  rw [errorOf_resolve, Graph.relationDescriptors_push_relations, List.findSome?_append]
  simp only [RelationDescriptor.failure_congr (Graph.tables_push_relations g s)]
  rw [hnone, Option.none_or, List.findSome?_eq_none_iff]
  exact fun x hx => List.findSome?_eq_none_iff.mp hnone x (mem_relationDescriptors hs hx)

/-- With a relation set repeated, the one-row descriptors resolve as the first pass resolved
them, followed by the repeated ones, which resolve to relations the first pass already found. -/
theorem resolveOnes_push_relationSet {s : RelationSet} (hs : s ∈ g.relationSets)
    {ones ones' : List (OneRelation × Option Warning)} (hones : g.resolveOnes p = .ok ones)
    (hones' : (g.push (.relations s)).resolveOnes p = .ok ones') :
    ∃ again, ones' = ones ++ again ∧ ∀ o ∈ again, o ∈ ones := by
  unfold Graph.resolveOnes at hones hones'
  rw [Graph.relationDescriptors_push_relations, List.filter_append, List.mapM_append] at hones'
  simp only [RelationDescriptor.resolveOne_congr (Graph.tables_push_relations g s)] at hones'
  obtain ⟨first, hfirst, hones'⟩ := bind_eq_ok.mp hones'
  obtain ⟨again, hagain, hones'⟩ := bind_eq_ok.mp hones'
  rw [hones] at hfirst
  cases hfirst
  cases hones'
  refine ⟨again, rfl, fun o ho => ?_⟩
  -- a repeated descriptor is one the first pass resolved, and resolving reads the same tables
  obtain ⟨x, hx, hfo⟩ := exists_of_mem_mapM hagain ho
  exact mem_of_mapM_ok hones (mem_filter_relationDescriptors hs _ hx) hfo

theorem manyRelations_push_relationSet (s : RelationSet) :
    (g.push (.relations s)).manyRelations = g.manyRelations ++
      ((s.relations.map (s, ·)).filter (·.2.cardinality == .many)).map
        fun x => .many (x.2.manyRelation x.1) := by
  simp only [Graph.manyRelations, Graph.relationDescriptors_push_relations, List.filter_append,
    List.map_append]

/-- Declaring one of a snapshot's relation sets a second time, at its end, changes none of the
relations the pass finds: the repeated descriptors resolve as they did the first time, and each
of their relations is dropped as a repetition. -/
theorem resolve_push_relationSet (h : g.resolve p = .ok r) {s : RelationSet}
    (hs : s ∈ g.relationSets) :
    ∃ r', (g.push (.relations s)).resolve p = .ok r' ∧ r'.relations = r.relations := by
  obtain ⟨r', hr'⟩ := resolve_push_relationSet_ok h hs
  refine ⟨r', hr', ?_⟩
  obtain ⟨ones, hones, hrel, -⟩ := resolve_eq_ok h
  obtain ⟨ones', hones', hrel', -⟩ := resolve_eq_ok hr'
  obtain ⟨again, rfl, hsub⟩ := resolveOnes_push_relationSet hs hones hones'
  -- the relations found again, one-row and collection alike, are repetitions
  rw [hrel', hrel, manyRelations_push_relationSet, List.map_append,
    eraseDups_append_append_of_subset, ← List.append_assoc, eraseDups_append_of_subset]
  · intro y hy
    obtain ⟨x, hx, rfl⟩ := List.mem_map.mp hy
    exact List.mem_append_right _ (List.mem_map_of_mem (mem_filter_relationDescriptors hs _ hx))
  · intro y hy
    obtain ⟨o, ho, rfl⟩ := List.mem_map.mp hy
    exact List.mem_map_of_mem (hsub o ho)

end Repeat

namespace Relation

theorem withDirection_of_direction {x : Relation} {d : Direction} (h : x.direction = d) :
    x.withDirection d = x := by
  cases x <;> cases h <;> rfl

end Relation

namespace Resolution

variable {r : Resolution}

/-- When every relation is seen from its declaring side, a model is attached the one-row
relations that reference it, seen inbound, followed by the relations it declares, as they are. -/
theorem attachedTo_of_outbound (hout : ∀ x ∈ r.relations, x.direction = .outbound)
    (model : String) :
    r.attachedTo model =
      (r.relations.filter fun x => x.isOne && x.referenceModel == model).map
          (·.withDirection .inbound) ++
        r.relations.filter (·.sourceModel == model) := by
  unfold attachedTo
  congr 1
  rw [List.map_congr_left fun x hx =>
    Relation.withDirection_of_direction (hout x (List.mem_filter.mp hx).1), List.map_id']

theorem mem_attachedTo_of_outbound (hout : ∀ x ∈ r.relations, x.direction = .outbound)
    (model : String) (x : Relation) :
    x ∈ r.attachedTo model ↔ ∃ y ∈ r.relations,
      (y.isOne ∧ y.referenceModel = model ∧ x = y.withDirection .inbound) ∨
        (y.sourceModel = model ∧ x = y) := by
  rw [attachedTo_of_outbound hout, List.mem_append, List.mem_map]
  constructor
  · rintro (⟨y, hy, rfl⟩ | hx)
    · obtain ⟨hy, hmatch⟩ := List.mem_filter.mp hy
      simp only [Bool.and_eq_true, beq_iff_eq] at hmatch
      exact ⟨y, hy, .inl ⟨hmatch.1, hmatch.2, rfl⟩⟩
    · obtain ⟨hx, hsource⟩ := List.mem_filter.mp hx
      exact ⟨x, hx, .inr ⟨beq_iff_eq.mp hsource, rfl⟩⟩
  · rintro ⟨y, hy, ⟨hone, href, rfl⟩ | ⟨hsource, rfl⟩⟩
    · exact .inl ⟨y, List.mem_filter.mpr ⟨hy, by simp [hone, href]⟩, rfl⟩
    · exact .inr (List.mem_filter.mpr ⟨hy, by simp [hsource]⟩)

end Resolution

end SchemaNorm
