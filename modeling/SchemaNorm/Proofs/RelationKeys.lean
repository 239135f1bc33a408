import SchemaNorm.Proofs.Runs

/-!
The key of a one-row relation. A one-row relation takes both key lists from its settings when
they give both; else the first foreign key of its source table that points at the referenced
table gives the key, and its columns decide whether the relation is optional; else the relation
has no key. `KeyedBy` states these rules as three cases, apart from the resolver's code, and
every one-row relation the relation pass resolves is named as declared and keyed by them.

So a relation ends up with an empty key list in two ways only: without a key, with a warning,
or through a foreign key whose own column lists are empty, with no warning at all.
-/

namespace SchemaNorm

namespace RelationDescriptor

/-- The settings a descriptor is resolved with: its own, or the defaults. -/
def settings (d : RelationDescriptor) : RelationConfig := d.config.getD {}

end RelationDescriptor

namespace Graph

/-- Some of the named storage columns of a table may be `NULL`: the table exists, and for one
of the names the first column with that storage name is not declared `NOT NULL`. -/
def SomeNullable (g : Graph) (table : String) (columns : List String) : Prop :=
  ∃ t, g.tableNamed? table = some t ∧
    ∃ name ∈ columns, ∃ c, t.columnByName? name = some c ∧ c.notNull = false

end Graph

namespace TableDeclaration

/-- `fk` is the first foreign key of the table that points at `referenced`. -/
def FirstForeignKeyTo (t : TableDeclaration) (referenced : String) (fk : ForeignKey) : Prop :=
  ∃ before after, t.foreignKeys = before ++ fk :: after ∧ fk.foreignTable = referenced ∧
    ∀ f ∈ before, f.foreignTable ≠ referenced

theorem find?_foreignTable_eq_some_iff {t : TableDeclaration} {referenced : String}
    {fk : ForeignKey} :
    t.foreignKeys.find? (·.foreignTable == referenced) = some fk ↔
      t.FirstForeignKeyTo referenced fk := by
  rw [List.find?_eq_some_iff_append]
  constructor
  · rintro ⟨hfk, before, after, hsplit, hbefore⟩
    exact ⟨before, after, hsplit, by simpa using hfk, fun f hf => by simpa using hbefore f hf⟩
  · rintro ⟨before, after, hsplit, hfk, hbefore⟩
    exact ⟨by simpa using hfk, before, after, hsplit, fun f hf => by simpa using hbefore f hf⟩

end TableDeclaration

/-- The optionality a relation takes: the one `given`, or else whether some of `columns` may
be `NULL`. -/
def OptionalBy (g : Graph) (table : String) (given : Option Bool) (columns : List String)
    (b : Bool) : Prop :=
  match given with
  | some o => b = o
  | none => (b = true ↔ g.SomeNullable table columns)

/-- How a one-row relation declared from `source` is keyed: its source fields, its reference
fields, and whether it is optional. -/
inductive KeyedBy (g : Graph) (source : String) (d : RelationDescriptor) :
    List String → List String → Bool → Prop where
  /-- Both key lists given in the settings are taken. -/
  | settings {b : Bool} : d.settings.fields ≠ [] → d.settings.references ≠ [] →
      OptionalBy g source d.settings.optional d.settings.fields b →
      KeyedBy g source d d.settings.fields d.settings.references b
  /-- Otherwise the first foreign key to the referenced table gives the key, and its columns
  the optionality, whatever the settings say. -/
  | foreignKey {t : TableDeclaration} {fk : ForeignKey} {b : Bool} :
      (d.settings.fields = [] ∨ d.settings.references = []) →
      g.tableNamed? source = some t → t.FirstForeignKeyTo d.referencedTable fk →
      OptionalBy g source none fk.columns b →
      KeyedBy g source d fk.columns fk.foreignColumns b
  /-- Without such a foreign key the relation has no key. -/
  | unresolved {b : Bool} :
      (d.settings.fields = [] ∨ d.settings.references = []) →
      (∀ t ∈ g.tableNamed? source, ∀ fk ∈ t.foreignKeys, fk.foreignTable ≠ d.referencedTable) →
      OptionalBy g source d.settings.optional d.settings.fields b →
      KeyedBy g source d [] [] b

/-- The one-row relation resolved from a descriptor of a set: declared from the set's table
unless the descriptor names its source, named as declared, seen from its declaring side, and
keyed as `KeyedBy` says from its source table. -/
structure OneRelation.ResolvedFrom (r : OneRelation) (g : Graph) (s : RelationSet)
    (d : RelationDescriptor) : Prop where
  sourceModel : r.sourceModel = if d.sourceTable = "" then s.table else d.sourceTable
  referenceModel : r.referenceModel = d.referencedTable
  declaredName : r.declaredName = d.name
  aliasName : r.aliasName = d.name
  relationName : r.relationName = d.settings.relationName
  outbound : r.direction = .outbound
  keyed : KeyedBy g r.sourceModel d r.sourceFields r.referenceFields r.isOptional

namespace RelationDescriptor

variable {p : RelationPolicy} {g : Graph} {source : String} {d : RelationDescriptor}
  {o : OneRelation × Option Warning}

theorem sourceIn_eq (d : RelationDescriptor) (s : RelationSet) :
    d.sourceIn s = if d.sourceTable = "" then s.table else d.sourceTable := by
  simp only [sourceIn, String.isEmpty_iff]

theorem anyNullable_iff (g : Graph) (table : String) (columns : List String) :
    anyNullable (g.tableNamed? table) columns = true ↔ g.SomeNullable table columns := by
  unfold anyNullable Graph.SomeNullable
  cases g.tableNamed? table with
  | none => simp
  | some t => simp [ColumnDescriptor.isNullable, Option.any_eq_true]

theorem optionalBy_getD (g : Graph) (table : String) (given : Option Bool)
    (columns : List String) :
    OptionalBy g table given columns (given.getD (anyNullable (g.tableNamed? table) columns)) := by
  cases given with
  | some o => rfl
  | none => exact anyNullable_iff g table columns

/-- A resolved one-row relation is named as declared, seen outbound from `source`, and keyed as
`KeyedBy` says. -/
theorem resolveOne_eq_ok (h : d.resolveOne p g source = .ok o) :
    o.1.sourceModel = source ∧ o.1.referenceModel = d.referencedTable ∧
      o.1.declaredName = d.name ∧ o.1.aliasName = d.name ∧
      o.1.relationName = d.settings.relationName ∧ o.1.direction = .outbound ∧
      KeyedBy g source d o.1.sourceFields o.1.referenceFields o.1.isOptional := by
  simp only [resolveOne] at h
  -- keys given in the settings come first; only without them is a foreign key looked up
  by_cases hkeys : d.settings.fields = [] ∨ d.settings.references = []
  · have hcond : ((d.config.getD {}).fields.isEmpty || (d.config.getD {}).references.isEmpty) =
        true := by simpa [settings] using hkeys
    rw [if_pos hcond] at h
    cases hfk : (g.tableNamed? source).bind
        fun t => t.foreignKeys.find? (·.foreignTable == d.referencedTable) with
    | some fk =>
      rw [hfk] at h
      cases h
      obtain ⟨t, ht, hfirst⟩ := Option.bind_eq_some_iff.mp hfk
      exact ⟨rfl, rfl, rfl, rfl, rfl, rfl, .foreignKey hkeys ht
        (TableDeclaration.find?_foreignTable_eq_some_iff.mp hfirst)
        (anyNullable_iff g source fk.columns)⟩
    | none =>
      rw [hfk] at h
      have hnone := foreignKey_eq_none_iff.mp hfk
      cases p with
      | error => cases h
      | warn =>
        cases h
        exact ⟨rfl, rfl, rfl, rfl, rfl, rfl,
          .unresolved hkeys hnone (optionalBy_getD g source _ _)⟩
  · obtain ⟨hfields, hreferences⟩ := not_or.mp hkeys
    have hcond : ((d.config.getD {}).fields.isEmpty || (d.config.getD {}).references.isEmpty) =
        false := by simpa [settings] using hkeys
    rw [if_neg (by simp [hcond])] at h
    cases h
    exact ⟨rfl, rfl, rfl, rfl, rfl, rfl,
      .settings hfields hreferences (optionalBy_getD g source _ _)⟩

/-- A resolved one-row relation warns exactly when it has no key, whatever the policy. -/
theorem resolveOne_snd (h : d.resolveOne p g source = .ok o) :
    o.2 = if d.Unkeyed g source then
      some (Warning.unresolvedRelationFields source d.name d.referencedTable) else none := by
  cases p with
  | warn => exact resolveOne_warn_snd h
  | error =>
    -- a strict run that succeeds resolved a keyed relation as the lenient run does
    rw [resolveOne_error] at h
    by_cases hu : d.Unkeyed g source
    · rw [if_pos hu] at h
      cases h
    · rw [if_neg hu] at h
      rw [resolveOne_warn_snd h, if_neg hu]

theorem resolveOne_resolvedFrom {s : RelationSet} (h : d.resolveOne p g (d.sourceIn s) = .ok o) :
    o.1.ResolvedFrom g s d := by
  obtain ⟨hsource, hreference, hdeclared, halias, hname, hout, hkeyed⟩ := resolveOne_eq_ok h
  exact ⟨hsource.trans (sourceIn_eq d s), hreference, hdeclared, halias, hname, hout,
    hsource ▸ hkeyed⟩

end RelationDescriptor

namespace KeyedBy

variable {g : Graph} {source : String} {d : RelationDescriptor} {fields references : List String}
  {b : Bool}

/-- An empty key list comes from a relation without a key, or from a first foreign key whose
own column lists are not both given. -/
theorem empty_cases (hk : KeyedBy g source d fields references b)
    (hempty : fields = [] ∨ references = []) :
    d.Unkeyed g source ∨ ∃ t fk, g.tableNamed? source = some t ∧
      t.FirstForeignKeyTo d.referencedTable fk ∧ (fk.columns = [] ∨ fk.foreignColumns = []) ∧
      fields = fk.columns ∧ references = fk.foreignColumns := by
  cases hk with
  | settings hfields hreferences _ => rcases hempty with h | h <;> contradiction
  | foreignKey _ ht hfirst _ => exact .inr ⟨_, _, ht, hfirst, hempty, rfl, rfl⟩
  | unresolved hkeys hnone _ => exact .inl ⟨hkeys, hnone⟩

end KeyedBy

section Pass

variable {p : RelationPolicy} {g : Graph} {r : Resolution}

/-- A relation pass that succeeds resolved every one-row descriptor, and kept the relation and
the warning it made of it. -/
theorem exists_resolveOne_of_resolve (h : g.resolve p = .ok r)
    {x : RelationSet × RelationDescriptor} (hx : x ∈ g.relationDescriptors)
    (hone : x.2.cardinality = .one) :
    ∃ o, x.2.resolveOne p g (x.2.sourceIn x.1) = .ok o ∧ Relation.one o.1 ∈ r.relations ∧
      ∀ w ∈ o.2, w ∈ r.warnings := by
  obtain ⟨ones, hones, hrel, hwarnings⟩ := resolve_eq_ok h
  have hxone : x ∈ g.relationDescriptors.filter (·.2.cardinality == .one) :=
    List.mem_filter.mpr ⟨hx, by simp [hone]⟩
  obtain ⟨o, ho, hres⟩ := forall₂_exists_right (forall₂_of_mapM_ok hones) hxone
  refine ⟨o, hres, ?_, fun w hw => ?_⟩
  · rw [hrel, List.mem_eraseDups]
    exact List.mem_append_left _ (List.mem_map_of_mem ho)
  · rw [hwarnings]
    exact List.mem_flatMap.mpr ⟨o, ho, Option.mem_toList.mpr hw⟩

/-- Every one-row relation of a pass that succeeds was resolved from one of the snapshot's
descriptors, with a warning the pass kept. -/
theorem exists_descriptor_of_resolve (h : g.resolve p = .ok r) {one : OneRelation}
    (hmem : Relation.one one ∈ r.relations) :
    ∃ x ∈ g.relationDescriptors, ∃ w, x.2.resolveOne p g (x.2.sourceIn x.1) = .ok (one, w) ∧
      ∀ v ∈ w, v ∈ r.warnings := by
  obtain ⟨ones, hones, hrel, hwarnings⟩ := resolve_eq_ok h
  rw [hrel, List.mem_eraseDups, List.mem_append] at hmem
  rcases hmem with hmem | hmem
  · obtain ⟨⟨one', w⟩, ho, heq⟩ := List.mem_map.mp hmem
    cases heq
    obtain ⟨x, hx, hres⟩ := exists_of_mem_mapM hones ho
    refine ⟨x, (List.mem_filter.mp hx).1, w, hres, fun v hv => ?_⟩
    rw [hwarnings]
    exact List.mem_flatMap.mpr ⟨_, ho, Option.mem_toList.mpr hv⟩
  · -- the collection relations are no one-row relations
    obtain ⟨x, -, heq⟩ := List.mem_map.mp hmem
    cases heq

/-- Each one-row descriptor of a snapshot whose relation pass succeeds is resolved to a relation
of the pass, declared from the set's table unless the descriptor names its source, named as
declared, seen outbound, and keyed as `KeyedBy` says: by both key lists of its settings when
they give both, with the given optionality or else whether a key column may be `NULL`; else by
the first foreign key of its source table to the referenced table, optional exactly when one of
its columns may be `NULL`; else by no key. -/
theorem resolve_one_relation_resolvedFrom (h : g.resolve p = .ok r) {s : RelationSet}
    (hs : s ∈ g.relationSets) {d : RelationDescriptor} (hd : d ∈ s.relations)
    (hone : d.cardinality = .one) :
    ∃ o, d.resolveOne p g (d.sourceIn s) = .ok o ∧ Relation.one o.1 ∈ r.relations ∧
      o.1.ResolvedFrom g s d := by
  obtain ⟨o, hres, hmem, -⟩ :=
    exists_resolveOne_of_resolve h (mem_relationDescriptors hs (List.mem_map_of_mem hd)) hone
  exact ⟨o, hres, hmem, RelationDescriptor.resolveOne_resolvedFrom hres⟩

end Pass

/-- A transfer table with three foreign keys, two of them to accounts, and a one-row relation
to an account without settings. -/
def transferGraph : Graph where
  entries := [
    .table { TableDeclaration.new "Transfer" with
             foreignKeys := [⟨["currencyId"], "Currency", ["id"]⟩, ⟨["fromId"], "Account", ["id"]⟩,
               ⟨["toId"], "Account", ["id"]⟩] },
    .relations { binding := "TransferRelations", table := "Transfer",
                 relations := [RelationDescriptor.one "from" "Transfer" "Account"] }]

theorem transferGraph_from_resolved :
    ∃ r, transferGraph.resolve .error = .ok r ∧
      ∃ o, (RelationDescriptor.one "from" "Transfer" "Account").resolveOne .error transferGraph
          "Transfer" = .ok o ∧ Relation.one o.1 ∈ r.relations ∧
        o.1.ResolvedFrom transferGraph
          { binding := "TransferRelations", table := "Transfer",
            relations := [RelationDescriptor.one "from" "Transfer" "Account"] }
          (RelationDescriptor.one "from" "Transfer" "Account") := by
  obtain ⟨r, h⟩ : ∃ r, transferGraph.resolve .error = .ok r := ⟨_, rfl⟩
  exact ⟨r, h, resolve_one_relation_resolvedFrom h (by decide) List.mem_cons_self rfl⟩

/-- A one-row relation keyed by a foreign key whose column lists are not both given: the first
foreign key of its source table to its referenced table, with an empty column list, gives its
key. -/
def OneRelation.KeyedByEmptyForeignKey (one : OneRelation) (g : Graph) : Prop :=
  ∃ t fk, g.tableNamed? one.sourceModel = some t ∧ t.FirstForeignKeyTo one.referenceModel fk ∧
    (fk.columns = [] ∨ fk.foreignColumns = []) ∧ one.sourceFields = fk.columns ∧
    one.referenceFields = fk.foreignColumns

/-- A one-row relation of a pass with an empty key list was warned about, or was keyed by a
foreign key with an empty column list. -/
theorem resolve_empty_key (h : g.resolve p = .ok r) {one : OneRelation}
    (hmem : Relation.one one ∈ r.relations)
    (hempty : one.sourceFields = [] ∨ one.referenceFields = []) :
    Warning.unresolvedRelationFields one.sourceModel one.declaredName one.referenceModel ∈
        r.warnings ∨ one.KeyedByEmptyForeignKey g := by
  obtain ⟨x, -, w, hres, hwarned⟩ := exists_descriptor_of_resolve h hmem
  obtain ⟨hsource, hreference, hdeclared, -, -, -, hkeyed⟩ :=
    RelationDescriptor.resolveOne_eq_ok hres
  dsimp only at hsource hreference hdeclared hkeyed
  rcases hkeyed.empty_cases hempty with hunkeyed | ⟨t, fk, ht, hfirst, hfk, hfields, hrefs⟩
  · -- a relation without a key carries the warning of its source, name and referenced table
    left
    have hw := RelationDescriptor.resolveOne_snd hres
    rw [if_pos hunkeyed] at hw
    rw [hsource, hdeclared, hreference]
    exact hwarned _ hw
  · right
    exact ⟨t, fk, hsource ▸ ht, hreference ▸ hfirst, hfk, hfields, hrefs⟩

section Normalized

variable {p : RelationPolicy} {g : Graph} {ir : Schema}

/-- A one-row relation of a normalized schema with an empty key list has the warning of its
source model, name and referenced model among the schema's warnings, unless a foreign key with an
empty column list gave its key; under the strict policy only such a foreign key can. -/
theorem normalize_empty_key_explained (h : g.normalize p = .ok ir) {one : OneRelation}
    (hmem : Relation.one one ∈ ir.relations)
    (hempty : one.sourceFields = [] ∨ one.referenceFields = []) :
    (Warning.unresolvedRelationFields one.sourceModel one.declaredName one.referenceModel ∈
        ir.warnings ∨ one.KeyedByEmptyForeignKey g) ∧
      (p = .error → one.KeyedByEmptyForeignKey g) := by
  obtain ⟨r, hr, -, -, hrel, hwarnings⟩ := g.normalize_eq_ok h
  rw [hrel] at hmem
  have hexplained := resolve_empty_key hr hmem hempty
  rw [← hwarnings] at hexplained
  refine ⟨hexplained, ?_⟩
  rintro rfl
  -- a strict run that succeeds raises no warning
  rcases hexplained with hwarned | hkeyed
  · rw [warnings_of_normalize_error h] at hwarned
    cases hwarned
  · exact hkeyed

end Normalized

/-- A post table and a one-row relation from it to users, which has no key. -/
def unkeyedPostGraph : Graph where
  entries := [.table (TableDeclaration.new "Post"),
    .relations { binding := "PostRelations", table := "Post",
                 relations := [RelationDescriptor.one "author" "Post" "User"] }]

/-- The author relation of the post table, as resolved without a key. -/
def unkeyedAuthor : OneRelation where
  declaredName := "author"
  aliasName := "author"
  relationName := none
  sourceModel := "Post"
  referenceModel := "User"
  sourceFields := []
  referenceFields := []
  isOptional := false
  direction := .outbound

theorem unkeyedPostGraph_author_warned :
    ∃ ir, unkeyedPostGraph.normalize .warn = .ok ir ∧ Relation.one unkeyedAuthor ∈ ir.relations ∧
      unkeyedAuthor.sourceFields = [] ∧
      (Warning.unresolvedRelationFields unkeyedAuthor.sourceModel unkeyedAuthor.declaredName
          unkeyedAuthor.referenceModel ∈ ir.warnings ∨
        unkeyedAuthor.KeyedByEmptyForeignKey unkeyedPostGraph) ∧
        (RelationPolicy.warn = .error → unkeyedAuthor.KeyedByEmptyForeignKey unkeyedPostGraph) := by
  have hrel : (unkeyedPostGraph.normalize .warn).toOption.map (·.relations) =
      some [.one unkeyedAuthor] := by decide +kernel
  cases h : unkeyedPostGraph.normalize .warn with
  | error e =>
    rw [h] at hrel
    cases hrel
  | ok ir =>
    rw [h] at hrel
    have hrel : ir.relations = [.one unkeyedAuthor] := Option.some.inj hrel
    have hmem : Relation.one unkeyedAuthor ∈ ir.relations := by
      rw [hrel]
      exact List.mem_singleton_self _
    exact ⟨ir, rfl, hmem, rfl, normalize_empty_key_explained h hmem (.inl rfl)⟩

/-- A post table whose one foreign key to users names no columns, and a one-row relation from it
to users without settings. -/
def emptyForeignKeyGraph : Graph where
  entries := [.table { TableDeclaration.new "Post" with foreignKeys := [⟨[], "User", []⟩] },
    .relations { binding := "PostRelations", table := "Post",
                 relations := [RelationDescriptor.one "author" "Post" "User"] }]

/-- Under the strict policy the author relation is normalized with no key and no warning. -/
theorem emptyForeignKeyGraph_strict_unwarned :
    ∃ ir, emptyForeignKeyGraph.normalize .error = .ok ir ∧
      Relation.one unkeyedAuthor ∈ ir.relations ∧ unkeyedAuthor.sourceFields = [] ∧
      Warning.unresolvedRelationFields unkeyedAuthor.sourceModel unkeyedAuthor.declaredName
        unkeyedAuthor.referenceModel ∉ ir.warnings := by
  have hrun : (emptyForeignKeyGraph.normalize .error).toOption.map
      (fun ir => (ir.relations, ir.warnings)) = some ([.one unkeyedAuthor], []) := by
    decide +kernel
  cases h : emptyForeignKeyGraph.normalize .error with
  | error e =>
    rw [h] at hrun
    cases hrun
  | ok ir =>
    rw [h] at hrun
    obtain ⟨hrel, hwarnings⟩ := Prod.mk.inj (Option.some.inj hrun)
    refine ⟨ir, rfl, ?_, rfl, ?_⟩
    · rw [hrel]
      exact List.mem_singleton_self _
    · rw [hwarnings]
      exact List.not_mem_nil

end SchemaNorm
