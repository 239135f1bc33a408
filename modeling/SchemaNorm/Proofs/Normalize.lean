import SchemaNorm.Validation
import SchemaNorm.Proofs.Resolve
import SchemaNorm.Proofs.Tables

/-!
Normalizing a snapshot, against its contract. The checks of a snapshot form one list in the
order they run: every descriptor of its relation sets, then every table in turn. A snapshot
normalizes exactly when no check fails, and otherwise stops with the first failure. A
normalized schema has one model per table, the enums as declared, columns keyed by alias with
the last write winning, enum columns that name declared enums, every relation once with the
one-row relations first, and in each model exactly the relations it takes part in.
-/

namespace SchemaNorm

namespace Graph

/-- The failing checks of a snapshot under a policy, in the order the normalizer runs them: the
descriptors of its relation sets, then its tables. -/
def failures (p : RelationPolicy) (g : Graph) : List NormalizeError :=
  g.relationDescriptors.filterMap (fun x => x.2.failure p g x.1) ++
    tableFailures (g.enums.map (·.name)) [] g.tables

theorem canonicalNames_enumerations (g : Graph) :
    g.enumerations.map (·.canonicalName) = g.enums.map (·.name) := by
  simp [enumerations]

@[simp] theorem enumerations_push_relations (g : Graph) (s : RelationSet) :
    (g.push (.relations s)).enumerations = g.enumerations := by
  simp [enumerations, enums, push, Entry.enum?]

/-- Normalizing stops with the first failing check. -/
theorem errorOf_normalize (p : RelationPolicy) (g : Graph) :
    errorOf (g.normalize p) = (g.failures p).head? := by
  have hmodels : ∀ r, errorOf (assembleModels r g.enumerations [] g.tables) =
      (tableFailures (g.enums.map (·.name)) [] g.tables).head? := fun r => by
    rw [errorOf_assembleModels, canonicalNames_enumerations]
  unfold normalize
  rw [errorOf_bind_of_const fun r => (errorOf_bind_pure _ _).trans (hmodels r), errorOf_resolve,
    failures, List.head?_append, List.head?_filterMap]

/-- What a normalized schema is made of: the resolved relations, and the models the table pass
assembles with them. -/
theorem normalize_eq_ok {p : RelationPolicy} {g : Graph} {ir : Schema}
    (h : g.normalize p = .ok ir) :
    ∃ r, g.resolve p = .ok r ∧ assembleModels r g.enumerations [] g.tables = .ok ir.models ∧
      ir.enums = g.enumerations ∧ ir.relations = r.relations ∧ ir.warnings = r.warnings := by
  unfold normalize at h
  dsimp only at h
  obtain ⟨r, hr, h⟩ := bind_eq_ok.mp h
  obtain ⟨models, hm, h⟩ := bind_eq_ok.mp h
  cases h
  exact ⟨r, hr, hm, rfl, rfl, rfl⟩

theorem normalize_of_ok {p : RelationPolicy} {g : Graph} {r : Resolution} {ms : List Model}
    (hr : g.resolve p = .ok r) (hm : assembleModels r g.enumerations [] g.tables = .ok ms) :
    g.normalize p = .ok
      { models := ms, enums := g.enumerations, relations := r.relations, warnings := r.warnings
        summary := summaryText ms g.enumerations r.relations r.warnings } := by
  unfold normalize
  exact bind_eq_ok.mpr ⟨r, hr, bind_eq_ok.mpr ⟨ms, hm, rfl⟩⟩

/-- A snapshot normalizes exactly when none of its checks fails, and otherwise normalizing stops
with the first failing check: the descriptors of its relation sets in entry and then declaration
order, where a descriptor fails on an unknown cardinality or, when unresolved relations are
errors, on a one-row relation without a key; then each table in entry order, on a name an
earlier table has, a column that cannot be classified, an index declaration that cannot be
normalized, or an enum column whose enum is not declared. -/
theorem normalize_error_iff_first_failure (p : RelationPolicy) (g : Graph) :
    ((∃ ir, g.normalize p = .ok ir) ↔ g.failures p = []) ∧
      ∀ e, g.normalize p = .error e ↔ (g.failures p).head? = some e := by
  refine ⟨?_, fun e => ?_⟩
  · rw [← errorOf_eq_none_iff, errorOf_normalize, List.head?_eq_none_iff]
  · rw [← errorOf_eq_some_iff, errorOf_normalize]

end Graph

/-- A model none of whose enum columns names an enum missing from the schema draws no error from
the enum check of validation. -/
theorem Schema.enumColumnErrors_eq_nil {s : Schema} {m : Model}
    (h : ∀ c ∈ m.columns, c.type = .enum → ∃ n, c.enumName = some n ∧
      ∃ e ∈ s.enums, e.canonicalName = n) :
    s.enumColumnErrors m = [] := by
  rw [Schema.enumColumnErrors, List.map_eq_nil_iff, List.filter_eq_nil_iff]
  intro c hc
  by_cases htype : c.type = .enum
  · obtain ⟨n, hn, e, he, rfl⟩ := h c hc htype
    have hfound : (s.enum? e.canonicalName).isSome := by
      rw [Schema.enum?, List.find?_isSome]
      exact ⟨e, he, by simp⟩
    simp [hn, hfound]
  · simp [htype]

section Normalized

variable {p : RelationPolicy} {g : Graph} {ir : Schema}

/-- Every column of a normalized model comes from a column descriptor of its table: an enum
column names an enum of the schema, and no other column names an enum. -/
theorem enumName_of_normalize (h : g.normalize p = .ok ir) :
    ∀ m ∈ ir.models, ∀ c ∈ m.columns,
      (c.type = .enum → ∃ n, c.enumName = some n ∧ ∃ e ∈ ir.enums, e.canonicalName = n) ∧
        (c.type ≠ .enum → c.enumName = none) := by
  obtain ⟨r, -, hm, henums, -, -⟩ := g.normalize_eq_ok h
  intro m hmem c hc
  obtain ⟨t, -, hassemble, hlinks⟩ := forall₂_exists_left (assembleModels_eq_ok hm).1 hmem
  obtain ⟨-, -, ⟨cs, hcs, hcols⟩, -⟩ := TableDeclaration.assemble_eq_ok hassemble
  obtain ⟨d, hd, hclassify⟩ := exists_of_mem_mapM hcs (hcols.mem_of_mem hc)
  obtain ⟨henum, hother⟩ := ColumnDescriptor.classify_enumName hclassify
  refine ⟨fun htype => ?_, hother⟩
  obtain ⟨hs, n, hdn, hcn⟩ := henum htype
  have hdeclared := TableDeclaration.checkEnumLinks_eq_ok hlinks d hd hs n hdn
  rw [← henums] at hdeclared
  obtain ⟨e, he, hname⟩ := List.mem_map.mp hdeclared
  exact ⟨n, hcn, e, he, hname⟩

/-- A normalized schema holds the snapshot's tables and enums: one model per table declaration,
in entry order, with the table's name and binding and its column descriptors classified and
keyed by alias, the last write winning; models with distinct names; the enum declarations in
entry order; enum columns that name enums of the schema, and no other column naming one. -/
structure TablesNormalized (g : Graph) (ir : Schema) : Prop where
  models : List.Forall₂ (fun t m => m.canonicalName = t.name ∧ m.binding = t.binding ∧
      ∃ cs, t.columns.mapM (ColumnDescriptor.classify t.name) = .ok cs ∧
        LastWriteWins cs m.columns ∧ (m.columns.map (·.aliasName)).Nodup)
    g.tables ir.models
  distinct : (ir.models.map (·.canonicalName)).Nodup
  enums : ir.enums = g.enums.map fun e => ⟨e.binding, e.name, e.values⟩
  enumColumns : ∀ m ∈ ir.models, ∀ c ∈ m.columns,
    (c.type = .enum → ∃ n, c.enumName = some n ∧ ∃ e ∈ ir.enums, e.canonicalName = n) ∧
      (c.type ≠ .enum → c.enumName = none)
  knownEnums : ∀ m ∈ ir.models, ir.enumColumnErrors m = []

/-- A normalized schema holds the snapshot's tables and enums as `TablesNormalized` says; in
particular validation reports no column referencing an unknown enum. -/
theorem normalize_models_enums_columns (h : g.normalize p = .ok ir) : TablesNormalized g ir := by
  obtain ⟨r, -, hm, henums, -, -⟩ := g.normalize_eq_ok h
  obtain ⟨hforall, hnodup, -⟩ := assembleModels_eq_ok hm
  have hlinked := enumName_of_normalize h
  refine ⟨?_, ?_, henums, hlinked, ?_⟩
  · refine hforall.imp fun t m hassemble => ?_
    obtain ⟨hname, hbinding, ⟨cs, hcs, hcols⟩, -⟩ := TableDeclaration.assemble_eq_ok hassemble.1
    exact ⟨hname, hbinding, cs, hcs, hcols, hcols.nodup⟩
  · rw [canonicalNames_of_assembleModels hm]
    exact hnodup
  · intro m hmem
    exact Schema.enumColumnErrors_eq_nil fun c hc => (hlinked m hmem c hc).1

/-- A snapshot with an enum, a table whose columns repeat an alias and store the enum, a
self-referencing one-row relation keyed by a foreign key, a collection relation, and a relation
set declared twice. -/
def sampleGraph : Graph where
  entries := [
    .enum { binding := "roleEnum", name := "Role", values := ["admin", "member"] },
    .table { binding := "users", name := "User",
             columns := [ColumnDescriptor.new "id" .integer "integer",
               { ColumnDescriptor.new "role" .enum "role" with enumName := some "Role" },
               ColumnDescriptor.new "id" .bigint53 "bigint"],
             foreignKeys := [⟨["managerId"], "User", ["id"]⟩] },
    .relations { binding := "usersRelations", table := "User",
                 relations := [RelationDescriptor.one "manager" "" "User",
                   RelationDescriptor.many "posts" "" "Post"] },
    .table { binding := "posts", name := "Post" },
    .relations { binding := "usersRelationsAgain", table := "User",
                 relations := [RelationDescriptor.one "manager" "" "User"] }]

theorem sampleGraph_tables_normalized :
    ∃ ir, sampleGraph.normalize .warn = .ok ir ∧ TablesNormalized sampleGraph ir := by
  obtain ⟨ir, h⟩ : ∃ ir, sampleGraph.normalize .warn = .ok ir := ⟨_, rfl⟩
  exact ⟨ir, h, normalize_models_enums_columns h⟩

/-- Declaring one of a snapshot's relation sets a second time, at its end, changes neither the
models nor the relations of the normalized schema. -/
theorem normalize_push_relationSet (h : g.normalize p = .ok ir) {s : RelationSet}
    (hs : s ∈ g.relationSets) :
    ∃ ir', (g.push (.relations s)).normalize p = .ok ir' ∧ ir'.models = ir.models ∧
      ir'.relations = ir.relations := by
  obtain ⟨r, hr, hm, -, hrel, -⟩ := g.normalize_eq_ok h
  obtain ⟨r', hr', hrel'⟩ := resolve_push_relationSet hr hs
  have hm' : assembleModels r' (g.push (.relations s)).enumerations []
      (g.push (.relations s)).tables = .ok ir.models := by
    rw [Graph.enumerations_push_relations, Graph.tables_push_relations,
      assembleModels_congr hrel', hm]
  refine ⟨_, Graph.normalize_of_ok hr' hm', rfl, ?_⟩
  rw [hrel', hrel]

/-- The relations of a normalized schema: the resolved one-row relations of the one-row
descriptors in encounter order, then the collection relations of the collection descriptors in
encounter order, each distinct relation at its first occurrence. So every relation is seen from
its declaring side, none repeats, no collection relation precedes a one-row relation and no
descriptor's relation is lost; and declaring a relation set of the snapshot again at its end
changes neither the models nor the relations. -/
structure RelationsFlattened (p : RelationPolicy) (g : Graph) (ir : Schema) : Prop where
  flat : ∃ ones, g.resolveOnes p = .ok ones ∧
    ir.relations = (ones.map (fun o => Relation.one o.1) ++ g.manyRelations).eraseDups ∧
    ∀ x ∈ ones.map (fun o => Relation.one o.1) ++ g.manyRelations, x ∈ ir.relations
  outbound : ∀ x ∈ ir.relations, x.direction = .outbound
  distinct : ir.relations.Nodup
  onesFirst : ir.relations.Pairwise fun a b => b.isOne → a.isOne
  repeatSet : ∀ s ∈ g.relationSets, ∃ ir', (g.push (.relations s)).normalize p = .ok ir' ∧
    ir'.models = ir.models ∧ ir'.relations = ir.relations

theorem normalize_relations_flat (h : g.normalize p = .ok ir) : RelationsFlattened p g ir := by
  obtain ⟨r, hr, -, -, hrel, -⟩ := g.normalize_eq_ok h
  obtain ⟨ones, hones, hflat, -⟩ := resolve_eq_ok hr
  refine ⟨⟨ones, hones, hrel.trans hflat, fun x hx => ?_⟩, hrel ▸ direction_of_resolve hr,
    hrel ▸ nodup_of_resolve hr, hrel ▸ ones_before_manys_of_resolve hr,
    fun s hs => normalize_push_relationSet h hs⟩
  rw [hrel, hflat]
  exact List.mem_eraseDups.mpr hx

theorem sampleGraph_relations_flattened :
    ∃ ir, sampleGraph.normalize .warn = .ok ir ∧ RelationsFlattened .warn sampleGraph ir := by
  obtain ⟨ir, h⟩ : ∃ ir, sampleGraph.normalize .warn = .ok ir := ⟨_, rfl⟩
  exact ⟨ir, h, normalize_relations_flat h⟩

/-- Each model of a normalized schema holds the one-row relations of the schema that reference
it, seen inbound, followed by the relations it declares, as they are in the schema. So a model
holds a relation exactly as one of these: a one-row relation inbound at the model it references
and outbound at the model that declares it (both at one model for a self-relation), a collection
relation outbound at its declaring model only, each differing from the schema's only in its
direction. -/
structure RelationsAttached (ir : Schema) : Prop where
  attached : ∀ m ∈ ir.models, m.relations =
    (ir.relations.filter fun x => x.isOne && x.referenceModel == m.canonicalName).map
        (·.withDirection .inbound) ++
      ir.relations.filter (·.sourceModel == m.canonicalName)
  mem : ∀ m ∈ ir.models, ∀ x, x ∈ m.relations ↔ ∃ y ∈ ir.relations,
    (y.isOne ∧ y.referenceModel = m.canonicalName ∧ x = y.withDirection .inbound) ∨
      (y.sourceModel = m.canonicalName ∧ x = y)

theorem normalize_model_relations (h : g.normalize p = .ok ir) : RelationsAttached ir := by
  obtain ⟨r, hr, hm, -, hrel, -⟩ := g.normalize_eq_ok h
  have hout := direction_of_resolve hr
  -- a model is attached the relations of its table's name, which the model carries
  have hmodel : ∀ m ∈ ir.models, m.relations = r.attachedTo m.canonicalName := by
    intro m hmem
    obtain ⟨t, -, hassemble, -⟩ := forall₂_exists_left (assembleModels_eq_ok hm).1 hmem
    obtain ⟨hname, -, -, hattached, -⟩ := TableDeclaration.assemble_eq_ok hassemble
    rw [hattached, hname]
  constructor
  · intro m hmem
    rw [hmodel m hmem, hrel, Resolution.attachedTo_of_outbound hout]
  · intro m hmem x
    rw [hmodel m hmem, hrel, Resolution.mem_attachedTo_of_outbound hout]

theorem sampleGraph_relations_attached :
    ∃ ir, sampleGraph.normalize .warn = .ok ir ∧ RelationsAttached ir := by
  obtain ⟨ir, h⟩ : ∃ ir, sampleGraph.normalize .warn = .ok ir := ⟨_, rfl⟩
  exact ⟨ir, h, normalize_model_relations h⟩

end Normalized

end SchemaNorm
