import SchemaNorm.Proofs.Normalize

/-!
Two runs of the normalizer compared.

The same snapshot under the two policies: the strict policy is the lenient one with every
one-row relation whose key cannot be found turned into a failure. So when the lenient run
succeeds without warnings the strict one gives the same schema; when it warns, the strict run
stops at the relation of its first warning; when it fails, the strict run fails too, with the
same error or earlier at such a relation; and a strict run never warns.

Two snapshots under one policy: the normalizer reads a snapshot only through its tables, its
enums and its relation sets, so two snapshots that agree on these normalize alike, whatever
their versions, their placeholder entries and the interleaving of their entries.
-/

namespace SchemaNorm

namespace RelationDescriptor

/-- The source table, name and referenced table of a one-row descriptor of a set whose key
cannot be found; `none` for every other descriptor. -/
def unkeyed? (g : Graph) (s : RelationSet) (d : RelationDescriptor) :
    Option (String × String × String) :=
  if d.cardinality = .one ∧ d.Unkeyed g (d.sourceIn s) then
    some (d.sourceIn s, d.name, d.referencedTable)
  else none

end RelationDescriptor

/-- The error for a one-row relation without a key, from its source table, name and referenced
table. -/
def unresolvedError (u : String × String × String) : NormalizeError :=
  .unresolvedRelationFields u.1 u.2.1 u.2.2

/-- The warning for a one-row relation without a key, from its source table, name and
referenced table. -/
def unresolvedWarning (u : String × String × String) : Warning :=
  Warning.unresolvedRelationFields u.1 u.2.1 u.2.2

namespace Graph

/-- The one-row descriptors whose key cannot be found, in encounter order. -/
def unkeyedRelations (g : Graph) : List (String × String × String) :=
  g.relationDescriptors.filterMap fun x => x.2.unkeyed? g x.1

end Graph

namespace RelationDescriptor

variable {g : Graph} {source : String} {d : RelationDescriptor}

/-- Under the strict policy a one-row relation without a key is an error; any other resolves
as under the lenient policy. -/
theorem resolveOne_error (g : Graph) (source : String) (d : RelationDescriptor) :
    d.resolveOne .error g source =
      if d.Unkeyed g source then .error (.unresolvedRelationFields source d.name d.referencedTable)
      else d.resolveOne .warn g source := by
  by_cases hkeys : (d.config.getD {}).fields = [] ∨ (d.config.getD {}).references = []
  · have hcond : ((d.config.getD {}).fields.isEmpty || (d.config.getD {}).references.isEmpty) =
        true := by simpa using hkeys
    cases hfk : (g.tableNamed? source).bind
        fun t => t.foreignKeys.find? (·.foreignTable == d.referencedTable) with
    | some fk =>
      have hkeyed : ¬d.Unkeyed g source := fun h => by
        rw [Unkeyed, ← foreignKey_eq_none_iff, hfk] at h
        cases h.2
      rw [if_neg hkeyed]
      simp only [resolveOne, hcond, if_true, hfk]
    | none =>
      rw [if_pos ⟨hkeys, foreignKey_eq_none_iff.mp hfk⟩]
      simp only [resolveOne, hcond, if_true, hfk]
  · have hcond : ((d.config.getD {}).fields.isEmpty || (d.config.getD {}).references.isEmpty) =
        false := by simpa using hkeys
    rw [if_neg fun h => hkeys h.1]
    simp only [resolveOne, hcond, Bool.false_eq_true, if_false]

/-- Under the lenient policy a one-row relation warns exactly when it has no key. -/
theorem resolveOne_warn_snd {o : OneRelation × Option Warning}
    (h : d.resolveOne .warn g source = .ok o) :
    o.2 = if d.Unkeyed g source then
      some (Warning.unresolvedRelationFields source d.name d.referencedTable) else none := by
  by_cases hkeys : (d.config.getD {}).fields = [] ∨ (d.config.getD {}).references = []
  · have hcond : ((d.config.getD {}).fields.isEmpty || (d.config.getD {}).references.isEmpty) =
        true := by simpa using hkeys
    simp only [resolveOne, hcond, if_true] at h
    cases hfk : (g.tableNamed? source).bind
        fun t => t.foreignKeys.find? (·.foreignTable == d.referencedTable) with
    | some fk =>
      have hkeyed : ¬d.Unkeyed g source := fun h => by
        rw [Unkeyed, ← foreignKey_eq_none_iff, hfk] at h
        cases h.2
      rw [hfk] at h
      cases h
      rw [if_neg hkeyed]
    | none =>
      rw [hfk] at h
      cases h
      rw [if_pos ⟨hkeys, foreignKey_eq_none_iff.mp hfk⟩]
  · have hcond : ((d.config.getD {}).fields.isEmpty || (d.config.getD {}).references.isEmpty) =
        false := by simpa using hkeys
    simp only [resolveOne, hcond, Bool.false_eq_true, if_false] at h
    cases h
    rw [if_neg fun h => hkeys h.1]

/-- A descriptor fails under the strict policy as under the lenient one, or else because it is
a one-row relation without a key. -/
theorem failure_error (g : Graph) (s : RelationSet) (d : RelationDescriptor) :
    d.failure .error g s = (d.failure .warn g s).or ((d.unkeyed? g s).map unresolvedError) := by
  unfold failure unkeyed?
  cases hc : d.cardinality with
  | one => by_cases hu : d.Unkeyed g (d.sourceIn s) <;> simp [hu, unresolvedError]
  | many => simp
  | other raw => simp

end RelationDescriptor

section Policies

variable {g : Graph}

/-- The strict pass is the lenient pass in which every one-row descriptor without a key stops
with its error. -/
theorem resolveDescriptor_error (g : Graph) (s : RelationSet) (st : ResolutionState)
    (d : RelationDescriptor) :
    resolveDescriptor .error g s st d =
      match d.unkeyed? g s with
      | some u => .error (unresolvedError u)
      | none => resolveDescriptor .warn g s st d := by
  unfold resolveDescriptor RelationDescriptor.unkeyed?
  cases hc : d.cardinality with
  | one =>
    dsimp only
    rw [RelationDescriptor.resolveOne_error]
    by_cases hu : d.Unkeyed g (d.sourceIn s)
    · simp [hu, unresolvedError]
    · simp [hu]
  | many => simp
  | other raw => simp

/-- A lenient step adds the warning of its descriptor when that has no key, and no other. -/
theorem resolveDescriptor_warn_warnings {s : RelationSet} {st st' : ResolutionState}
    {d : RelationDescriptor} (h : resolveDescriptor .warn g s st d = .ok st') :
    st'.warnings = st.warnings ++ ((d.unkeyed? g s).map unresolvedWarning).toList := by
  rcases resolveDescriptor_eq_ok h with ⟨hc, o, ho, rfl⟩ | ⟨hc, rfl⟩
  · rw [RelationDescriptor.resolveOne_warn_snd ho]
    by_cases hu : d.Unkeyed g (d.sourceIn s) <;>
      simp [RelationDescriptor.unkeyed?, hc, hu, unresolvedWarning]
  · simp [RelationDescriptor.unkeyed?, hc]

/-- A lenient pass over descriptors collects the warnings of those without a key, in order. -/
theorem foldlM_warn_warnings {xs : List (RelationSet × RelationDescriptor)}
    {st st' : ResolutionState}
    (h : xs.foldlM (fun st x => resolveDescriptor .warn g x.1 st x.2) st = .ok st') :
    st'.warnings =
      st.warnings ++ (xs.filterMap fun x => x.2.unkeyed? g x.1).map unresolvedWarning := by
  induction xs generalizing st with
  | nil =>
    cases h
    simp
  | cons x xs ih =>
    rw [List.foldlM_cons] at h
    obtain ⟨st₁, hx, h⟩ := bind_eq_ok.mp h
    rw [ih h, resolveDescriptor_warn_warnings hx, List.filterMap_cons]
    cases x.2.unkeyed? g x.1 <;> simp

theorem foldlM_congr_mem {σ α ε : Type} {f f' : σ → α → Except ε σ} {xs : List α}
    (h : ∀ s, ∀ x ∈ xs, f s x = f' s x) (s : σ) : xs.foldlM f s = xs.foldlM f' s := by
  induction xs generalizing s with
  | nil => rfl
  | cons x xs ih =>
    rw [List.foldlM_cons, List.foldlM_cons, h s x List.mem_cons_self]
    congr 1
    funext s'
    exact ih (fun s y hy => h s y (List.mem_cons_of_mem _ hy)) s'

/-- The lenient relation pass warns about the one-row relations without a key, in encounter
order. -/
theorem resolve_warn_warnings {r : Resolution} (h : g.resolve .warn = .ok r) :
    r.warnings = g.unkeyedRelations.map unresolvedWarning := by
  unfold Graph.resolve at h
  rw [foldlM_relationSets] at h
  obtain ⟨st, hfold, h⟩ := bind_eq_ok.mp h
  cases h
  rw [foldlM_warn_warnings hfold]
  rfl

/-- When every one-row relation has a key, the two policies resolve alike. -/
theorem resolve_error_of_unkeyedRelations_nil (h : g.unkeyedRelations = []) :
    g.resolve .error = g.resolve .warn := by
  have hnone : ∀ x ∈ g.relationDescriptors, x.2.unkeyed? g x.1 = none :=
    List.filterMap_eq_nil_iff.mp h
  have hstep : ∀ st, ∀ x ∈ g.relationDescriptors,
      resolveDescriptor .error g x.1 st x.2 = resolveDescriptor .warn g x.1 st x.2 := by
    intro st x hx
    rw [resolveDescriptor_error, hnone x hx]
  unfold Graph.resolve
  rw [foldlM_relationSets, foldlM_relationSets]
  exact congrArg (· >>= _) (foldlM_congr_mem hstep {})

/-- Normalizing reads the policy only through the relation pass. -/
theorem normalize_eq_of_resolve_eq {p p' : RelationPolicy} (h : g.resolve p = g.resolve p') :
    g.normalize p = g.normalize p' := by
  simp only [Graph.normalize, h]

/-- The strict checks of a snapshot: each descriptor fails as in the lenient checks or, for a
one-row relation without a key, with its error; the tables fail alike. -/
theorem failures_error (g : Graph) :
    g.failures .error =
      g.relationDescriptors.filterMap (fun x =>
        (x.2.failure .warn g x.1).or ((x.2.unkeyed? g x.1).map unresolvedError)) ++
        tableFailures (g.enums.map (·.name)) [] g.tables := by
  simp only [Graph.failures, RelationDescriptor.failure_error]

end Policies

/-- The first of a list of checks, each of which may fail earlier with a second kind of error,
is the first of the checks without it, or one of the second kind. -/
theorem head?_filterMap_or_append {α β : Type} (f h : α → Option β) (xs : List α)
    (rest : List β) :
    (xs.filterMap (fun x => (f x).or (h x)) ++ rest).head? = (xs.filterMap f ++ rest).head? ∨
      ∃ x ∈ xs, ∃ b, h x = some b ∧
        (xs.filterMap (fun x => (f x).or (h x)) ++ rest).head? = some b := by
  induction xs with
  | nil => exact .inl rfl
  | cons x xs ih =>
    cases hf : f x with
    | some a => exact .inl (by simp [hf])
    | none =>
      cases hh : h x with
      | some b => exact .inr ⟨x, List.mem_cons_self, b, hh, by simp [hf, hh]⟩
      | none =>
        -- neither check fails at the head: both lists start further on
        simp only [List.filterMap_cons, hf, hh, Option.or_none]
        rcases ih with heq | ⟨y, hy, b, hb, hhead⟩
        · exact .inl heq
        · exact .inr ⟨y, List.mem_cons_of_mem _ hy, b, hb, hhead⟩

section StrictAndLenient

variable {g : Graph} {ir : Schema}

/-- A lenient run warns about the one-row relations without a key, in encounter order. -/
theorem normalize_warn_warnings (h : g.normalize .warn = .ok ir) :
    ir.warnings = g.unkeyedRelations.map unresolvedWarning := by
  obtain ⟨r, hr, -, -, -, hw⟩ := g.normalize_eq_ok h
  rw [hw, resolve_warn_warnings hr]

theorem failures_eq_nil_of_normalize (p : RelationPolicy) (h : g.normalize p = .ok ir) :
    g.failures p = [] := by
  rw [← List.head?_eq_none_iff, ← Graph.errorOf_normalize, h]
  rfl

/-- When the lenient checks all pass, the strict checks that fail are exactly the one-row
relations without a key, in encounter order. -/
theorem failures_error_of_warn_nil (h : g.failures .warn = []) :
    g.failures .error = g.unkeyedRelations.map unresolvedError := by
  obtain ⟨hdesc, htables⟩ := List.append_eq_nil_iff.mp h
  have hpass : ∀ x ∈ g.relationDescriptors, x.2.failure .warn g x.1 = none :=
    List.filterMap_eq_nil_iff.mp hdesc
  rw [failures_error, htables, List.append_nil, Graph.unkeyedRelations, List.map_filterMap]
  apply List.filterMap_congr
  intro x hx
  rw [hpass x hx, Option.none_or]

/-- A lenient run without warnings is a strict run. -/
theorem normalize_error_of_unwarned (h : g.normalize .warn = .ok ir) (hw : ir.warnings = []) :
    g.normalize .error = .ok ir := by
  have hnil : g.unkeyedRelations = [] := by
    rw [normalize_warn_warnings h] at hw
    exact List.map_eq_nil_iff.mp hw
  rw [normalize_eq_of_resolve_eq (resolve_error_of_unkeyedRelations_nil hnil), h]

/-- A lenient run that warns makes the strict run stop at the relation of its first warning. -/
theorem normalize_error_of_warned {w : Warning} {ws : List Warning}
    (h : g.normalize .warn = .ok ir) (hw : ir.warnings = w :: ws) :
    ∃ u, g.normalize .error = .error (unresolvedError u) ∧ unresolvedWarning u = w := by
  rw [normalize_warn_warnings h] at hw
  obtain ⟨u, us, hu, rfl, -⟩ := List.map_eq_cons_iff.mp hw
  refine ⟨u, ?_, rfl⟩
  rw [← errorOf_eq_some_iff, Graph.errorOf_normalize,
    failures_error_of_warn_nil (failures_eq_nil_of_normalize .warn h), hu]
  rfl

/-- A lenient run that fails makes the strict run fail with the same error, or earlier at a
one-row relation without a key. -/
theorem normalize_error_of_warn_error {e : NormalizeError} (h : g.normalize .warn = .error e) :
    g.normalize .error = .error e ∨ ∃ u, g.normalize .error = .error (unresolvedError u) := by
  have hwarn : (g.failures .warn).head? = some e := by
    rw [← Graph.errorOf_normalize, h]
    rfl
  rcases head?_filterMap_or_append (fun x => x.2.failure .warn g x.1)
      (fun x => (x.2.unkeyed? g x.1).map unresolvedError) g.relationDescriptors
      (tableFailures (g.enums.map (·.name)) [] g.tables) with heq | ⟨x, -, b, hb, hhead⟩
  · left
    rw [← errorOf_eq_some_iff, Graph.errorOf_normalize, failures_error, heq, ← hwarn]
    rfl
  · right
    obtain ⟨u, -, rfl⟩ := Option.map_eq_some_iff.mp hb
    exact ⟨u, by rw [← errorOf_eq_some_iff, Graph.errorOf_normalize, failures_error, hhead]⟩

/-- A strict run that succeeds raises no warning. -/
theorem warnings_of_normalize_error (h : g.normalize .error = .ok ir) : ir.warnings = [] := by
  cases hwarn : g.normalize .warn with
  | error e =>
    rcases normalize_error_of_warn_error hwarn with he | ⟨u, he⟩ <;> rw [he] at h <;> cases h
  | ok ir₀ =>
    cases hw : ir₀.warnings with
    | nil =>
      rw [normalize_error_of_unwarned hwarn hw] at h
      cases h
      exact hw
    | cons w ws =>
      obtain ⟨u, he, -⟩ := normalize_error_of_warned hwarn hw
      rw [he] at h
      cases h

end StrictAndLenient

/-- How the strict run of a snapshot relates to its lenient run. A lenient run without
warnings gives the very schema the strict run gives, summary included; a lenient run that
warns makes the strict run stop with the error of the relation its first warning is about; a
lenient run that fails makes the strict run fail with the same error or with that of a one-row
relation without a key; and a strict run that succeeds has no warnings. -/
structure StrictAgreesWithLenient (g : Graph) : Prop where
  unwarned : ∀ ir, g.normalize .warn = .ok ir → ir.warnings = [] → g.normalize .error = .ok ir
  firstWarning : ∀ ir w ws, g.normalize .warn = .ok ir → ir.warnings = w :: ws →
    ∃ table relation referenced,
      g.normalize .error = .error (.unresolvedRelationFields table relation referenced) ∧
        Warning.unresolvedRelationFields table relation referenced = w
  lenientError : ∀ e, g.normalize .warn = .error e →
    g.normalize .error = .error e ∨ ∃ table relation referenced,
      g.normalize .error = .error (.unresolvedRelationFields table relation referenced)
  strictUnwarned : ∀ ir, g.normalize .error = .ok ir → ir.warnings = []

theorem normalize_strict_agrees_with_lenient (g : Graph) : StrictAgreesWithLenient g where
  unwarned _ h hw := normalize_error_of_unwarned h hw
  firstWarning _ _ _ h hw := by
    obtain ⟨⟨table, relation, referenced⟩, he, hw⟩ := normalize_error_of_warned h hw
    exact ⟨table, relation, referenced, he, hw⟩
  lenientError _ h := by
    rcases normalize_error_of_warn_error h with he | ⟨⟨table, relation, referenced⟩, he⟩
    · exact .inl he
    · exact .inr ⟨table, relation, referenced, he⟩
  strictUnwarned _ h := warnings_of_normalize_error h

section Views

variable {g₁ g₂ : Graph}

theorem resolveDescriptor_congr (htables : g₁.tables = g₂.tables) (p : RelationPolicy) :
    resolveDescriptor p g₁ = resolveDescriptor p g₂ := by
  funext s st d
  simp only [resolveDescriptor, RelationDescriptor.resolveOne_congr htables]

/-- The relation pass reads a snapshot only through its tables and its relation sets. -/
theorem Graph.resolve_congr (htables : g₁.tables = g₂.tables)
    (hsets : g₁.relationSets = g₂.relationSets) (p : RelationPolicy) :
    g₁.resolve p = g₂.resolve p := by
  unfold Graph.resolve
  rw [hsets, resolveDescriptor_congr htables]

/-- Normalizing reads a snapshot only through its tables, its enums and its relation sets: two
snapshots that agree on these normalize alike, whatever their versions, their placeholder
entries and the way their entries of different kinds are interleaved. -/
theorem Graph.normalize_eq_of_views (p : RelationPolicy) (htables : g₁.tables = g₂.tables)
    (henums : g₁.enums = g₂.enums) (hsets : g₁.relationSets = g₂.relationSets) :
    g₁.normalize p = g₂.normalize p := by
  unfold Graph.normalize Graph.enumerations
  rw [Graph.resolve_congr htables hsets, henums, htables]

end Views

/-- The sample snapshot with a version, placeholder entries, and its entries of different
kinds interleaved otherwise. -/
def shuffledSampleGraph : Graph where
  version := some "2"
  entries := [.other,
    .table { binding := "users", name := "User",
             columns := [ColumnDescriptor.new "id" .integer "integer",
               { ColumnDescriptor.new "role" .enum "role" with enumName := some "Role" },
               ColumnDescriptor.new "id" .bigint53 "bigint"],
             foreignKeys := [⟨["managerId"], "User", ["id"]⟩] },
    .relations { binding := "usersRelations", table := "User",
                 relations := [RelationDescriptor.one "manager" "" "User",
                   RelationDescriptor.many "posts" "" "Post"] },
    .relations { binding := "usersRelationsAgain", table := "User",
                 relations := [RelationDescriptor.one "manager" "" "User"] },
    .other,
    .enum { binding := "roleEnum", name := "Role", values := ["admin", "member"] },
    .table { binding := "posts", name := "Post" }]

theorem shuffledSampleGraph_normalizes_alike :
    sampleGraph.tables = shuffledSampleGraph.tables ∧
      sampleGraph.enums = shuffledSampleGraph.enums ∧
      sampleGraph.relationSets = shuffledSampleGraph.relationSets ∧
      sampleGraph.normalize .error = shuffledSampleGraph.normalize .error :=
  ⟨rfl, rfl, rfl, Graph.normalize_eq_of_views .error rfl rfl rfl⟩

end SchemaNorm
