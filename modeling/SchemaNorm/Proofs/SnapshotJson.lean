import SchemaNorm.Proofs.NumberRange
import SchemaNorm.Graph.Text
import SchemaNorm.Graph.Encode

/-!
Snapshots survive their JSON text, up to how the data format reads doubles. The proof has two
halves that meet at `Graph.Decoded`, a description of what the readers produce.

* Every snapshot read from JSON or YAML text is `Decoded`: its storage kinds and cardinalities
  are ones their tags read back to (a kept tag is never a known one), its integer defaults fit
  64 signed bits, its double defaults are finite, and its length hints fit 32 bits. This follows
  from the ranges the readers keep numbers in, carried through every member a decoder reads.
* A `Decoded` snapshot whose double defaults come back bit for bit from their data layout is
  `Representable`, and the compact JSON text of a representable snapshot reads back to it:
  placeholders as placeholders, absent options as absent, each default with its kind and bits.

The read-back of a double is a real condition: the data format reads a decimal literal the fast
way, one rounding per step, so the literal `49e-31` reads as a double whose shortest text reads
as its neighbour.
-/

namespace SchemaNorm

/-! ## Numbers in range, at every depth -/

/-- Every number in the datum, at any depth, is in the readers' ranges. -/
def Datum.InRange : Datum → Prop
  | .num n => n.InRange
  | .seq items => ∀ d ∈ items, d.InRange
  | .map entries => ∀ e ∈ entries, e.2.InRange
  | _ => True
decreasing_by
  -- an item, and the value of a member, are smaller than the datum holding them
  all_goals simp_wf
  · have := List.sizeOf_lt_of_mem ‹_›
    omega
  · rename_i he
    have hmem := List.sizeOf_lt_of_mem he
    have hsnd : sizeOf e.2 < sizeOf e := by
      obtain ⟨k, d⟩ := e
      simp only [Prod.mk.sizeOf_spec]
      omega
    omega

namespace Datum

@[simp] theorem inRange_seq (items : List Datum) :
    (seq items).InRange ↔ ∀ d ∈ items, d.InRange := by
  rw [InRange]

@[simp] theorem inRange_map (entries : List (FieldKey × Datum)) :
    (map entries).InRange ↔ ∀ e ∈ entries, e.2.InRange := by
  rw [InRange]

@[simp] theorem inRange_num (n : Number) : (num n).InRange ↔ n.InRange := by
  rw [InRange]

end Datum

namespace Json

mutual

theorem toDatum?_inRange : ∀ {j : Json} {d : Datum}, j.toDatum? = some d → d.InRange
  | .null, _, h => by cases h; simp [Datum.InRange]
  | .bool _, _, h => by cases h; simp [Datum.InRange]
  | .num _, _, h => by
    obtain ⟨n, hn, rfl⟩ := Option.map_eq_some_iff.mp h
    exact (Datum.inRange_num n).mpr (Number.ofLiteral?_inRange hn)
  | .str _, _, h => by cases h; simp [Datum.InRange]
  | .unpairedStr, _, h => by cases h
  | .arr _, _, h => by
    obtain ⟨ds, hds, rfl⟩ := Option.map_eq_some_iff.mp h
    exact (Datum.inRange_seq ds).mpr (itemsToDatum?_inRange hds)
  | .obj _, _, h => by
    obtain ⟨ds, hds, rfl⟩ := Option.map_eq_some_iff.mp h
    exact (Datum.inRange_map ds).mpr (fieldsToDatum?_inRange hds)

theorem itemsToDatum?_inRange : ∀ {items : List Json} {ds : List Datum},
    itemsToDatum? items = some ds → ∀ d ∈ ds, d.InRange
  | [], _, h => by cases h; simp
  | j :: js, ds, h => by
    simp only [itemsToDatum?, Option.bind_eq_bind, Option.bind_eq_some_iff, Option.pure_def,
      Option.some.injEq] at h
    obtain ⟨d, hd, ds', hds', rfl⟩ := h
    intro d' hd'
    rcases List.mem_cons.mp hd' with rfl | hmem
    · exact toDatum?_inRange hd
    · exact itemsToDatum?_inRange hds' d' hmem

theorem fieldsToDatum?_inRange : ∀ {fields : List (String × Json)} {ds : List (FieldKey × Datum)},
    fieldsToDatum? fields = some ds → ∀ e ∈ ds, e.2.InRange
  | [], _, h => by cases h; simp
  | (k, j) :: fs, ds, h => by
    simp only [fieldsToDatum?, Option.bind_eq_bind, Option.bind_eq_some_iff, Option.pure_def,
      Option.some.injEq] at h
    obtain ⟨d, hd, ds', hds', rfl⟩ := h
    intro e he
    rcases List.mem_cons.mp he with rfl | hmem
    · exact toDatum?_inRange hd
    · exact fieldsToDatum?_inRange hds' e hmem

end

end Json

namespace Yaml

theorem plainDatum_datumInRange (t : String) : (plainDatum t).InRange := by
  cases h : plainDatum t with
  | num n => exact (Datum.inRange_num n).mpr (plainDatum_inRange h)
  | seq items =>
    unfold plainDatum floatDatum at h
    repeat' split at h
    all_goals cases h
  | map entries =>
    unfold plainDatum floatDatum at h
    repeat' split at h
    all_goals cases h
  | _ => simp [Datum.InRange]

theorem scalarDatum?_inRange {tag : Tag} {plain : Bool} {t : String} {d : Datum}
    (h : scalarDatum? tag plain t = some d) : d.InRange := by
  unfold scalarDatum? at h
  split at h
  · cases h
    split
    · exact plainDatum_datumInRange t
    · simp [Datum.InRange]
  · cases h
    simp [Datum.InRange]
  · obtain ⟨_, -, rfl⟩ := Option.map_eq_some_iff.mp h
    simp [Datum.InRange]
  · cases h

namespace Node

mutual

theorem toDatum?_inRange : ∀ {n : Node} {d : Datum}, n.toDatum? = some d → d.InRange
  | .scalar _ _ _, _, h => scalarDatum?_inRange h
  | .seq _, _, h => by
    obtain ⟨ds, hds, rfl⟩ := Option.map_eq_some_iff.mp h
    exact (Datum.inRange_seq ds).mpr (itemsToDatum?_inRange hds)
  | .map _, _, h => by
    obtain ⟨ds, hds, rfl⟩ := Option.map_eq_some_iff.mp h
    exact (Datum.inRange_map ds).mpr (entriesToDatum?_inRange hds)

theorem itemsToDatum?_inRange : ∀ {items : List Node} {ds : List Datum},
    itemsToDatum? items = some ds → ∀ d ∈ ds, d.InRange
  | [], _, h => by cases h; simp
  | n :: ns, ds, h => by
    simp only [itemsToDatum?, Option.bind_eq_bind, Option.bind_eq_some_iff, Option.pure_def,
      Option.some.injEq] at h
    obtain ⟨d, hd, ds', hds', rfl⟩ := h
    intro d' hd'
    rcases List.mem_cons.mp hd' with rfl | hmem
    · exact toDatum?_inRange hd
    · exact itemsToDatum?_inRange hds' d' hmem

theorem entriesToDatum?_inRange : ∀ {entries : List (Node × Node)}
    {ds : List (FieldKey × Datum)}, entriesToDatum? entries = some ds → ∀ e ∈ ds, e.2.InRange
  | [], _, h => by cases h; simp
  | (k, v) :: es, ds, h => by
    simp only [entriesToDatum?, Option.bind_eq_bind, Option.bind_eq_some_iff, Option.pure_def,
      Option.some.injEq] at h
    obtain ⟨_, -, d, hd, ds', hds', rfl⟩ := h
    intro e he
    rcases List.mem_cons.mp he with rfl | hmem
    · exact toDatum?_inRange hd
    · exact entriesToDatum?_inRange hds' e hmem

end

end Node

end Yaml

/-! ## What a decoder reads of a datum

A decoder is a chain of `Option` steps written with `>>=`. The two lemmas below read such a chain
as it is written: turned into `Option.bind` first, a chain as long as a column's decoder sends
`simp` under every step with Mathlib's congruence rule for `Option.bind`, and the work doubles
with each step. -/

theorem bind_eq_some_iff_exists {α β : Type} {x : Option α} {f : α → Option β} {b : β} :
    (x >>= f) = some b ↔ ∃ a, x = some a ∧ f a = some b :=
  Option.bind_eq_some_iff

theorem some_bind_eq {α β : Type} (a : α) (f : α → Option β) : (some a >>= f) = f a := rfl

theorem exists_of_mem_mapM_eq_some {α β : Type} {f : α → Option β} {xs : List α} {ys : List β}
    (h : xs.mapM f = some ys) {y : β} (hy : y ∈ ys) : ∃ x ∈ xs, f x = some y := by
  induction xs generalizing ys with
  | nil =>
    cases h
    cases hy
  | cons x xs ih =>
    simp only [List.mapM_cons, Option.bind_eq_bind, Option.bind_eq_some_iff, Option.pure_def,
      Option.some.injEq] at h
    obtain ⟨y', hy', ys', hys', rfl⟩ := h
    rcases List.mem_cons.mp hy with rfl | hmem
    · exact ⟨x, List.mem_cons_self, hy'⟩
    · obtain ⟨x', hx', hfx'⟩ := ih hys' hmem
      exact ⟨x', List.mem_cons_of_mem _ hx', hfx'⟩

namespace Datum

theorem asOption?_eq_some_some {α : Type} {dec : Datum → Option α} {d : Datum} {a : α}
    (h : asOption? dec d = some (some a)) : dec d = some a := by
  cases d <;> simp_all [asOption?]

theorem exists_of_asList? {α : Type} {dec : Datum → Option α} {d : Datum} {xs : List α}
    (h : asList? dec d = some xs) {x : α} (hx : x ∈ xs) :
    ∃ items, d = .seq items ∧ ∃ d' ∈ items, dec d' = some x := by
  cases d with
  | seq items => exact ⟨items, rfl, exists_of_mem_mapM_eq_some h hx⟩
  | _ => cases h

end Datum

namespace Record

/-- A record read from a datum in range holds field values in range: its members, or its
items. -/
theorem inRange_of? {known : List String} {d : Datum} {r : Record} (h : of? known d = some r)
    (hd : d.InRange) : ∀ e ∈ r.entries, e.2.InRange := by
  intro e he
  cases d with
  | map entries =>
    simp only [of?, Option.bind_eq_bind, Option.bind_eq_some_iff] at h
    obtain ⟨named, hnamed, hr⟩ := h
    split at hr
    · cases hr
    · rw [Option.some.injEq] at hr
      subst hr
      -- a kept field is a named member, which reading leaves as it was
      obtain ⟨⟨f, d'⟩, hmem, hf⟩ := List.mem_filterMap.mp he
      obtain ⟨⟨k, d⟩, hkd, hread⟩ := exists_of_mem_mapM_eq_some hnamed hmem
      obtain ⟨name, -, rfl⟩ := Option.map_eq_some_iff.mp hf
      obtain ⟨_, -, hpair⟩ := Option.map_eq_some_iff.mp hread
      cases hpair
      exact (Datum.inRange_map entries).mp hd _ hkd
  | seq items =>
    simp only [of?] at h
    split at h
    · cases h
    · rw [Option.some.injEq] at h
      subst h
      exact (Datum.inRange_seq items).mp hd _ (List.of_mem_zip he).2
  | _ => cases h

theorem get?_inRange {r : Record} (hr : ∀ e ∈ r.entries, e.2.InRange) {name : String}
    {d : Datum} (h : r.get? name = some d) : d.InRange := by
  obtain ⟨l₁, l₂, heq, -⟩ := List.lookup_eq_some_iff.mp h
  exact hr (name, d) (by rw [heq]; simp)

theorem exists_of_required {α : Type} {r : Record} {name : String} {dec : Datum → Option α}
    {a : α} (h : r.required name dec = some a) : ∃ d, r.get? name = some d ∧ dec d = some a :=
  Option.bind_eq_some_iff.mp h

theorem exists_of_optionalDefault {α : Type} {r : Record} {name : String}
    {dec : Datum → Option α} {o : Option α} (h : r.optionalDefault name dec = some o) {a : α}
    (ha : a ∈ o) : ∃ d, r.get? name = some d ∧ dec d = some a := by
  cases ha
  unfold optionalDefault at h
  split at h
  · rename_i d hd
    exact ⟨d, hd, Datum.asOption?_eq_some_some h⟩
  · cases h

theorem exists_of_withDefault_asList? {α : Type} {r : Record} {name : String}
    {dec : Datum → Option α} {xs : List α} (h : r.withDefault name (Datum.asList? dec) [] = some xs)
    {x : α} (hx : x ∈ xs) : ∃ d, r.get? name = some d ∧ ∃ items, d = .seq items ∧
      ∃ d' ∈ items, dec d' = some x := by
  unfold withDefault at h
  split at h
  · rename_i d hd
    exact ⟨d, hd, Datum.exists_of_asList? h hx⟩
  · cases h
    cases hx

end Record

/-! ## What the readers produce -/

theorem StorageKind.ofTag_tag_ofTag (t : String) : ofTag (ofTag t).tag = ofTag t := by
  -- every known kind is found again by its tag
  have hknown : ∀ p ∈ known, known.lookup p.2.tag = some p.2 := by decide
  unfold ofTag
  cases h : known.lookup t with
  | none => rw [Option.getD_none, tag, h, Option.getD_none]
  | some k =>
    obtain ⟨l₁, l₂, heq, -⟩ := List.lookup_eq_some_iff.mp h
    rw [Option.getD_some, hknown (t, k) (by rw [heq]; simp), Option.getD_some]

theorem Cardinality.ofTag_tag_ofTag (t : String) : ofTag (ofTag t).tag = ofTag t := by
  unfold ofTag
  by_cases hone : t = "one"
  · simp [hone, tag]
  · by_cases hmany : t = "many"
    · simp [hmany, tag]
    · simp [hone, hmany, tag]

theorem DefaultValue.inRange_of_decode? {d : Datum} (hd : d.InRange) {v : DefaultValue}
    (h : decode? d = some v) : v.InRange := by
  cases d with
  | num n => exact decode?_num_inRange ((Datum.inRange_num n).mp hd) h
  | bool b =>
    cases h
    trivial
  | str s =>
    cases h
    trivial
  | _ => cases h

theorem Datum.lt_of_asU32? {d : Datum} {n : Nat} (h : asU32? d = some n) : n < 2 ^ 32 := by
  unfold asU32? at h
  split at h
  · split at h
    · rename_i hlt
      cases h
      simpa using hlt
    · cases h
  · cases h

/-- What every column a reader produces carries: a storage kind its tag reads back to, a
default in the readers' ranges, and a length hint of 32 bits. -/
structure ColumnDescriptor.Decoded (c : ColumnDescriptor) : Prop where
  storage : StorageKind.ofTag c.storage.tag = c.storage
  defaultValue : ∀ v ∈ c.defaultValue, v.InRange
  length : ∀ n ∈ c.length, n < 2 ^ 32

theorem ColumnDescriptor.decoded_of_decode? {d : Datum} (hd : d.InRange) {c : ColumnDescriptor}
    (h : decode? d = some c) : c.Decoded := by
  simp only [decode?, bind_eq_some_iff_exists, Option.pure_def, Option.some.injEq] at h
  obtain ⟨r, hr, -, -, -, -, s, hs, -, -, -, -, -, -, dv, hdv, -, -, -, -, -, -, len, hlen, -, -,
    rfl⟩ := h
  have hfields := Record.inRange_of? hr hd
  refine ⟨?_, ?_, ?_⟩
  · obtain ⟨_, -, hs⟩ := Record.exists_of_required hs
    obtain ⟨t, -, rfl⟩ := Option.map_eq_some_iff.mp hs
    exact StorageKind.ofTag_tag_ofTag t
  · intro v hv
    obtain ⟨d', hd', hdec⟩ := Record.exists_of_optionalDefault hdv hv
    exact DefaultValue.inRange_of_decode? (Record.get?_inRange hfields hd') hdec
  · intro n hn
    obtain ⟨_, -, hdec⟩ := Record.exists_of_optionalDefault hlen hn
    exact Datum.lt_of_asU32? hdec

/-- Every column of the table is one a reader produces. -/
def TableDeclaration.Decoded (t : TableDeclaration) : Prop := ∀ c ∈ t.columns, c.Decoded

/-- A relation whose cardinality tag reads back to its cardinality. -/
def RelationDescriptor.Decoded (d : RelationDescriptor) : Prop :=
  Cardinality.ofTag d.cardinality.tag = d.cardinality

def RelationSet.Decoded (s : RelationSet) : Prop := ∀ d ∈ s.relations, d.Decoded

/-- An entry as a reader produces it. -/
def Entry.Decoded : Entry → Prop
  | .table t => t.Decoded
  | .relations s => s.Decoded
  | .enum _ | .other => True

/-- A snapshot as a reader produces it: in every column the storage tag reads back, the
default is an integer of 64 signed bits or a finite double (or a Boolean or a text), and the
length hint fits 32 bits; in every relation the cardinality tag reads back. -/
def Graph.Decoded (g : Graph) : Prop := ∀ e ∈ g.entries, e.Decoded

theorem TableDeclaration.decoded_of_decode? {d : Datum} (hd : d.InRange)
    {t : TableDeclaration} (h : decode? d = some t) : t.Decoded := by
  simp only [decode?, bind_eq_some_iff_exists, Option.pure_def, Option.some.injEq] at h
  obtain ⟨r, hr, -, -, -, -, columns, hcolumns, -, -, -, -, rfl⟩ := h
  intro c hc
  obtain ⟨_, hget, items, rfl, d', hd', hdec⟩ := Record.exists_of_withDefault_asList? hcolumns hc
  have hitems := (Datum.inRange_seq items).mp (Record.get?_inRange (Record.inRange_of? hr hd) hget)
  exact ColumnDescriptor.decoded_of_decode? (hitems d' hd') hdec

theorem RelationDescriptor.decoded_of_decode? {d : Datum} {rd : RelationDescriptor}
    (h : decode? d = some rd) : rd.Decoded := by
  simp only [decode?, bind_eq_some_iff_exists, Option.pure_def, Option.some.injEq] at h
  obtain ⟨r, -, -, -, cardinality, hcardinality, -, -, -, -, -, -, rfl⟩ := h
  obtain ⟨_, -, hc⟩ := Record.exists_of_required hcardinality
  obtain ⟨t, -, rfl⟩ := Option.map_eq_some_iff.mp hc
  exact Cardinality.ofTag_tag_ofTag t

theorem RelationSet.decoded_of_decode? {d : Datum} {s : RelationSet} (h : decode? d = some s) :
    s.Decoded := by
  simp only [decode?, bind_eq_some_iff_exists, Option.pure_def, Option.some.injEq] at h
  obtain ⟨r, -, -, -, -, -, relations, hrelations, rfl⟩ := h
  intro rd hrd
  obtain ⟨_, -, _, rfl, d', -, hdec⟩ := Record.exists_of_withDefault_asList? hrelations hrd
  exact RelationDescriptor.decoded_of_decode? hdec

namespace Entry

theorem decoded_of_ofTagged? {tag : String} {d : Datum} (hd : d.InRange) {e : Entry}
    (h : ofTagged? tag d = some e) : e.Decoded := by
  unfold ofTagged? at h
  split at h
  · obtain ⟨_, -, rfl⟩ := Option.map_eq_some_iff.mp h
    trivial
  · split at h
    · obtain ⟨t, ht, rfl⟩ := Option.map_eq_some_iff.mp h
      exact TableDeclaration.decoded_of_decode? hd ht
    · split at h
      · obtain ⟨s, hs, rfl⟩ := Option.map_eq_some_iff.mp h
        exact RelationSet.decoded_of_decode? hs
      · cases h
        trivial

theorem decoded_of_decode? {d : Datum} (hd : d.InRange) {e : Entry} (h : decode? d = some e) :
    e.Decoded := by
  unfold decode? at h
  split at h
  · rename_i members
    split at h
    · -- the members besides the kind are members of the entry
      refine decoded_of_ofTagged? ?_ h
      rw [Datum.inRange_map] at hd ⊢
      exact fun m hm => hd m (List.mem_filter.mp hm).1
    · cases h
  · rename_i items
    refine decoded_of_ofTagged? ?_ h
    rw [Datum.inRange_seq] at hd ⊢
    exact fun d' hd' => hd d' (List.mem_cons_of_mem _ hd')
  · cases h

end Entry

namespace Graph

theorem decoded_of_entriesOfJson? {j : Json} {entries : List Entry}
    (h : entriesOfJson? j = some entries) : ∀ e ∈ entries, e.Decoded := by
  unfold entriesOfJson? at h
  split at h
  · intro e he
    obtain ⟨_, -, hread⟩ := exists_of_mem_mapM_eq_some h he
    obtain ⟨d, hd, hdec⟩ := Option.bind_eq_some_iff.mp hread
    exact Entry.decoded_of_decode? (Json.toDatum?_inRange hd) hdec
  · cases h

/-- The entries of a snapshot read from JSON: none, or those of one value. -/
theorem entries_of_ofJson? {j : Json} {g : Graph} (h : ofJson? j = some g) :
    g.entries = [] ∨ ∃ v, entriesOfJson? v = some g.entries := by
  unfold ofJson? at h
  split at h
  · split at h
    · cases h
    · dsimp only at h
      -- the version is read first, either way; then the entries member, if any
      split at h
      all_goals
        obtain ⟨_, -, h⟩ := Option.bind_eq_some_iff.mp h
        split at h
        · split at h
          · cases h
          · obtain ⟨_, hentries, h⟩ := Option.bind_eq_some_iff.mp h
            cases h
            exact .inr ⟨_, hentries⟩
        · cases h
          exact .inl rfl
  · cases h
    exact .inl rfl
  · obtain ⟨_, -, h⟩ := Option.bind_eq_some_iff.mp h
    cases h
    exact .inl rfl
  · obtain ⟨_, -, h⟩ := Option.bind_eq_some_iff.mp h
    split at h
    · cases h
    · obtain ⟨_, hentries, h⟩ := Option.bind_eq_some_iff.mp h
      cases h
      exact .inr ⟨_, hentries⟩
  · cases h

theorem decoded_of_ofJson? {j : Json} {g : Graph} (h : ofJson? j = some g) : g.Decoded := by
  rcases entries_of_ofJson? h with hnil | ⟨v, hentries⟩
  · rw [Decoded, hnil]
    exact fun _ he => nomatch he
  · exact decoded_of_entriesOfJson? hentries

theorem decoded_of_entryOfYaml? {n : Yaml.Node} {e : Entry} (h : entryOfYaml? n = some e) :
    e.Decoded := by
  unfold entryOfYaml? at h
  split at h
  · obtain ⟨keyed, -, h⟩ := Option.bind_eq_some_iff.mp h
    split at h
    · -- the kind's text, then the other members read as data, each in range
      obtain ⟨tag, -, h⟩ := Option.bind_eq_some_iff.mp h
      obtain ⟨rest, hrest, h⟩ := Option.bind_eq_some_iff.mp h
      refine Entry.decoded_of_ofTagged? ((Datum.inRange_map rest).mpr fun m hm => ?_) h
      obtain ⟨_, -, hread⟩ := exists_of_mem_mapM_eq_some hrest hm
      obtain ⟨d, hd, rfl⟩ := Option.map_eq_some_iff.mp hread
      exact Yaml.Node.toDatum?_inRange hd
    · cases h
  · obtain ⟨tag, -, h⟩ := Option.bind_eq_some_iff.mp h
    obtain ⟨rest, hrest, h⟩ := Option.bind_eq_some_iff.mp h
    refine Entry.decoded_of_ofTagged? ((Datum.inRange_seq rest).mpr fun d hd => ?_) h
    obtain ⟨_, -, hread⟩ := exists_of_mem_mapM_eq_some hrest hd
    exact Yaml.Node.toDatum?_inRange hread
  · cases h

theorem decoded_of_ofYamlNode? {n : Yaml.Node} {g : Graph} (h : ofYamlNode? n = some g) :
    g.Decoded := by
  simp only [ofYamlNode?, Option.bind_eq_bind, Option.bind_eq_some_iff, Option.pure_def,
    Option.some.injEq] at h
  obtain ⟨f, -, _, -, entries, hentries, rfl⟩ := h
  intro e he
  unfold Yaml.Fields.withDefault at hentries
  split at hentries
  · obtain ⟨_, -, hmapped⟩ := Option.bind_eq_some_iff.mp hentries
    obtain ⟨_, -, hread⟩ := exists_of_mem_mapM_eq_some hmapped he
    exact decoded_of_entryOfYaml? hread
  · cases hentries
    cases he

/-- Every snapshot a reader returns, from JSON or from YAML text, is `Decoded`. -/
theorem decoded_of_parseText {format : SnapshotFormat} {text : String} {g : Graph}
    (h : parseText format text = .ok g) : g.Decoded := by
  cases format with
  | yaml =>
    simp only [parseText] at h
    split at h
    · rename_i g' hg'
      cases h
      unfold parseYaml? at hg'
      split at hg'
      · cases hg'
        exact fun _ he => nomatch he
      · exact decoded_of_ofYamlNode? hg'
      · cases hg'
    · cases h
  | json =>
    simp only [parseText] at h
    split at h
    · rename_i g' hg'
      cases h
      obtain ⟨_, -, hj⟩ := Option.bind_eq_some_iff.mp hg'
      exact decoded_of_ofJson? hj
    · cases h

end Graph

/-! ## What the text carries -/

/-- A column its JSON text carries back: a storage tag that reads back, a default that keeps
its kind and bits, and a length hint of 32 bits. -/
structure ColumnDescriptor.Representable (c : ColumnDescriptor) : Prop where
  storage : StorageKind.ofTag c.storage.tag = c.storage
  defaultValue : ∀ v ∈ c.defaultValue, v.Representable
  length : ∀ n ∈ c.length, n < 2 ^ 32

def TableDeclaration.Representable (t : TableDeclaration) : Prop :=
  ∀ c ∈ t.columns, c.Representable

def Entry.Representable : Entry → Prop
  | .table t => t.Representable
  | .relations s => s.Decoded
  | .enum _ | .other => True

/-- A snapshot its JSON text carries back. -/
def Graph.Representable (g : Graph) : Prop := ∀ e ∈ g.entries, e.Representable

/-- The doubles among a snapshot's column defaults, table by table. -/
def Graph.doubleDefaults (g : Graph) : List Binary64 :=
  g.tables.flatMap fun t => t.columns.filterMap fun c =>
    match c.defaultValue with
    | some (.float x) => some x
    | _ => none

theorem Graph.mem_doubleDefaults {g : Graph} {x : Binary64} :
    x ∈ g.doubleDefaults ↔
      ∃ t, .table t ∈ g.entries ∧ ∃ c ∈ t.columns, c.defaultValue = some (.float x) := by
  simp only [doubleDefaults, tables, List.mem_flatMap, List.mem_filterMap]
  constructor
  · rintro ⟨t, ht, c, hc, hx⟩
    obtain ⟨e, he, hte⟩ := ht
    cases e <;> simp only [Entry.table?, reduceCtorEq, Option.some.injEq] at hte
    subst hte
    refine ⟨_, he, c, hc, ?_⟩
    split at hx
    · rename_i hdv
      cases hx
      exact hdv
    · cases hx
  · rintro ⟨t, ht, c, hc, hx⟩
    exact ⟨t, ⟨_, ht, rfl⟩, c, hc, by simp [hx]⟩

theorem ColumnDescriptor.Decoded.representable {c : ColumnDescriptor} (hc : c.Decoded)
    (hread : ∀ x, c.defaultValue = some (.float x) → x.ReadsBack) :
    c.Representable where
  storage := hc.storage
  defaultValue v hv := DefaultValue.representable_iff.mpr
    ⟨hc.defaultValue v hv, fun x hx => hread x (by rw [← hx]; exact hv)⟩
  length := hc.length

/-- A snapshot a reader returns is carried back by its JSON text when all its double defaults
read back from their data layout. -/
theorem Graph.representable_of_decoded {g : Graph} (hg : g.Decoded)
    (hread : ∀ x ∈ g.doubleDefaults, x.ReadsBack) :
    g.Representable := by
  intro e he
  cases e with
  | table t =>
    intro c hc
    exact (hg _ he c hc).representable fun x hx =>
      hread x (mem_doubleDefaults.mpr ⟨t, he, c, hc, hx⟩)
  | relations s => exact hg _ he
  | enum _ | other => trivial

/-! ## Writing -/

theorem Json.writable_bool (b : Bool) : (Json.bool b).Writable := trivial

theorem Json.writable_arr_map {α : Type} {f : α → Json} (hf : ∀ a, (f a).Writable)
    (xs : List α) : (Json.arr (xs.map f)).Writable :=
  Json.itemsWritable_map hf xs

theorem ColumnDescriptor.writable_toJson (c : ColumnDescriptor) : c.toJson.Writable := by
  simp [toJson, Json.Writable, Json.FieldsWritable,
    Json.writable_ofOption DefaultValue.writable_toJson,
    Json.writable_ofOption Json.writable_str,
    Json.writable_ofOption Json.writable_ofNat]

theorem ForeignKey.writable_toJson (f : ForeignKey) : f.toJson.Writable := by
  simp [toJson, Json.Writable, Json.FieldsWritable, Json.writable_ofStrings]

theorem IndexDeclaration.writable_toJson (i : IndexDeclaration) : i.toJson.Writable := by
  simp [toJson, Json.Writable, Json.FieldsWritable, Json.writable_ofStrings,
    Json.writable_ofOption Json.writable_str, Json.writable_ofOption Json.writable_bool]

theorem TableDeclaration.writable_fieldsJson (t : TableDeclaration) :
    Json.FieldsWritable t.fieldsJson := by
  simp [fieldsJson, Json.Writable, Json.FieldsWritable,
    Json.itemsWritable_map ColumnDescriptor.writable_toJson,
    Json.itemsWritable_map ForeignKey.writable_toJson,
    Json.writable_ofOption (Json.writable_arr_map IndexDeclaration.writable_toJson)]

theorem RelationDescriptor.writable_toJson (d : RelationDescriptor) : d.toJson.Writable := by
  have hconfig : ∀ c : RelationConfig, c.toJson.Writable := fun c => by
    simp [RelationConfig.toJson, Json.Writable, Json.FieldsWritable, Json.writable_ofStrings,
      Json.writable_ofOption Json.writable_str, Json.writable_ofOption Json.writable_bool]
  simp [toJson, Json.Writable, Json.FieldsWritable, Json.writable_ofOption hconfig]

theorem Entry.writable_toJson (e : Entry) : e.toJson.Writable := by
  cases e with
  | table t => exact ⟨trivial, t.writable_fieldsJson⟩
  | relations s =>
    simp [toJson, Json.Writable, Json.FieldsWritable,
      Json.itemsWritable_map RelationDescriptor.writable_toJson]
  | enum _ => simp [toJson, Json.Writable, Json.FieldsWritable, Json.writable_ofStrings]
  | other => simp [toJson, Json.Writable, Json.FieldsWritable]

theorem Graph.writable_toJson (g : Graph) : g.toJson.Writable := by
  simp [toJson, Json.Writable, Json.FieldsWritable, Json.writable_ofOption Json.writable_str,
    Json.itemsWritable_map Entry.writable_toJson]

/-! ## Reading every number -/

namespace Json

mutual

/-- A value the data format reads whole: every number is in range and every string has
text. -/
def Readable : Json → Prop
  | .num literal => (Number.ofLiteral? literal).isSome
  | .unpairedStr => False
  | .arr items => ItemsReadable items
  | .obj fields => FieldsReadable fields
  | _ => True

def ItemsReadable : List Json → Prop
  | [] => True
  | j :: js => Readable j ∧ ItemsReadable js

def FieldsReadable : List (String × Json) → Prop
  | [] => True
  | (_, j) :: fs => Readable j ∧ FieldsReadable fs

end

mutual

/-- Reading a readable value whole gives what reading it member by member gives. -/
theorem toDatum?_of_readable : ∀ {j : Json}, j.Readable → j.toDatum? = some j.toDatumSkipping
  | .null, _ | .bool _, _ | .str _, _ => rfl
  | .num literal, h => by
    obtain ⟨n, hn⟩ := Option.isSome_iff_exists.mp h
    simp [toDatum?, toDatumSkipping, hn]
  | .unpairedStr, h => h.elim
  | .arr items, h => by
    rw [toDatum?, itemsToDatum?_of_readable h, toDatumSkipping]
    rfl
  | .obj fields, h => by
    rw [toDatum?, fieldsToDatum?_of_readable h, toDatumSkipping]
    rfl

theorem itemsToDatum?_of_readable : ∀ {items : List Json}, ItemsReadable items →
    itemsToDatum? items = some (itemsSkipping items)
  | [], _ => rfl
  | j :: js, ⟨hj, hjs⟩ => by
    rw [itemsToDatum?, toDatum?_of_readable hj, itemsToDatum?_of_readable hjs]
    rfl

theorem fieldsToDatum?_of_readable : ∀ {fields : List (String × Json)}, FieldsReadable fields →
    fieldsToDatum? fields = some (fieldsSkipping fields)
  | [], _ => rfl
  | (_, j) :: fs, ⟨hj, hfs⟩ => by
    rw [fieldsToDatum?, toDatum?_of_readable hj, fieldsToDatum?_of_readable hfs]
    rfl

end

theorem readable_ofOption {α : Type} {f : α → Json} {o : Option α} (hf : ∀ a ∈ o, (f a).Readable) :
    (ofOption f o).Readable := by
  cases o with
  | none => trivial
  | some a => exact hf a rfl

theorem itemsReadable_map {α : Type} {f : α → Json} :
    ∀ {xs : List α}, (∀ a ∈ xs, (f a).Readable) → ItemsReadable (xs.map f)
  | [], _ => trivial
  | a :: _, h => ⟨h a List.mem_cons_self, itemsReadable_map fun a' ha' =>
      h a' (List.mem_cons_of_mem _ ha')⟩

theorem readable_ofStrings (xs : List String) : (ofStrings xs).Readable :=
  itemsReadable_map fun _ _ => trivial

theorem readable_ofNat {n : Nat} (hn : n < 2 ^ 64) : (ofNat n).Readable := by
  simp [ofNat, Readable, Number.ofLiteral?_repr hn]

end Json

theorem DefaultValue.readable_toJson {v : DefaultValue} (hv : v.Representable) :
    v.toJson.Readable := by
  cases v with
  | bool b => trivial
  | int i =>
    obtain ⟨hlo, hhi⟩ := hv
    simp only [toJson, Json.ofInt, Json.Readable]
    by_cases hpos : 0 ≤ i
    · have hrepr : toString i = i.toNat.repr := by
        rw [Int.toString_eq_repr, Int.repr_eq_if, if_pos hpos]
      rw [hrepr, Number.ofLiteral?_repr (by omega)]
      rfl
    · rw [Number.ofLiteral?_toString_neg (by omega) hlo]
      rfl
  | float x =>
    obtain ⟨hfinite, hread⟩ := hv
    simp [toJson, Json.ofBinary64, hfinite, Json.Readable, Binary64.readsBack_iff.mp hread]
  | text s => trivial

namespace Json

theorem readable_ofOption_str (o : Option String) : (ofOption .str o).Readable :=
  readable_ofOption fun _ _ => trivial

theorem readable_ofOption_bool (o : Option Bool) : (ofOption .bool o).Readable :=
  readable_ofOption fun _ _ => trivial

end Json

theorem ColumnDescriptor.readable_toJson {c : ColumnDescriptor} (hc : c.Representable) :
    c.toJson.Readable := by
  have hdefault : (Json.ofOption DefaultValue.toJson c.defaultValue).Readable :=
    Json.readable_ofOption fun v hv => DefaultValue.readable_toJson (hc.defaultValue v hv)
  have hlength : (Json.ofOption Json.ofNat c.length).Readable :=
    Json.readable_ofOption fun n hn => Json.readable_ofNat (by have := hc.length n hn; omega)
  simp [toJson, Json.Readable, Json.FieldsReadable, hdefault, hlength,
    Json.readable_ofOption_str]

theorem ForeignKey.readable_toJson (f : ForeignKey) : f.toJson.Readable := by
  simp [toJson, Json.Readable, Json.FieldsReadable, Json.readable_ofStrings]

theorem IndexDeclaration.readable_toJson (i : IndexDeclaration) : i.toJson.Readable := by
  simp [toJson, Json.Readable, Json.FieldsReadable, Json.readable_ofStrings,
    Json.readable_ofOption_str, Json.readable_ofOption_bool]

theorem TableDeclaration.readable_fieldsJson {t : TableDeclaration} (ht : t.Representable) :
    Json.FieldsReadable t.fieldsJson := by
  have hcolumns : Json.ItemsReadable (t.columns.map ColumnDescriptor.toJson) :=
    Json.itemsReadable_map fun c hc => ColumnDescriptor.readable_toJson (ht c hc)
  have hindexes :
      (Json.ofOption (fun is => .arr (is.map IndexDeclaration.toJson)) t.indexes).Readable :=
    Json.readable_ofOption fun is _ =>
      Json.itemsReadable_map fun i _ => IndexDeclaration.readable_toJson i
  simp [fieldsJson, Json.Readable, Json.FieldsReadable, hcolumns, hindexes,
    Json.itemsReadable_map fun f _ => ForeignKey.readable_toJson f]

theorem RelationDescriptor.readable_toJson (d : RelationDescriptor) : d.toJson.Readable := by
  have hconfig : (Json.ofOption RelationConfig.toJson d.config).Readable :=
    Json.readable_ofOption fun c _ => by
      simp [RelationConfig.toJson, Json.Readable, Json.FieldsReadable, Json.readable_ofStrings,
        Json.readable_ofOption_str, Json.readable_ofOption_bool]
  simp [toJson, Json.Readable, Json.FieldsReadable, hconfig]

theorem Entry.readable_toJson {e : Entry} (he : e.Representable) : e.toJson.Readable := by
  cases e with
  | table t => exact ⟨trivial, TableDeclaration.readable_fieldsJson he⟩
  | relations s =>
    simp [toJson, Json.Readable, Json.FieldsReadable,
      Json.itemsReadable_map fun d _ => RelationDescriptor.readable_toJson d]
  | enum _ => simp [toJson, Json.Readable, Json.FieldsReadable, Json.readable_ofStrings]
  | other => simp [toJson, Json.Readable, Json.FieldsReadable]

/-! ## Reading back each part -/

theorem ColumnDescriptor.decode?_toJson {c : ColumnDescriptor} (hc : c.Representable) :
    decode? c.toJson.toDatumSkipping = some c := by
  -- the optional default and length hint read back
  have hdefault : Datum.asOption? DefaultValue.decode?
      (Json.ofOption DefaultValue.toJson c.defaultValue).toDatumSkipping = some c.defaultValue :=
    Datum.asOption?_ofOption fun v hv => DefaultValue.decode?_toJson (hc.defaultValue v hv)
  have hlength : Datum.asOption? Datum.asU32?
      (Json.ofOption Json.ofNat c.length).toDatumSkipping = some c.length :=
    Datum.asOption?_ofOption fun n hn => Datum.asU32?_ofNat (hc.length n hn)
  rw [decode?, toJson, Record.of?_obj]
  · -- the thirteen reads are taken as written, one `>>=` at a time
    simp [-Option.bind_eq_bind, some_bind_eq, Record.required, Record.withDefault,
      Record.optionalDefault, Record.get?, List.lookup_cons, Datum.asString?, Datum.asBool?,
      hc.storage, hdefault, hlength, Datum.asOption?_ofOption_str]
  · rfl
  · decide

theorem ForeignKey.decode?_toJson (f : ForeignKey) : decode? f.toJson.toDatumSkipping = some f := by
  rw [decode?, toJson, Record.of?_obj]
  · simp [Record.required, Record.get?, List.lookup_cons, Datum.asString?,
      Datum.asStrings?_ofStrings]
  · rfl
  · decide

theorem IndexDeclaration.decode?_toJson (i : IndexDeclaration) :
    decode? i.toJson.toDatumSkipping = some i := by
  have hunique : Datum.asOption? Datum.asBool? (Json.ofOption .bool i.unique).toDatumSkipping =
      some i.unique :=
    Datum.asOption?_ofOption fun _ _ => ⟨nofun, rfl⟩
  rw [decode?, toJson, Record.of?_obj]
  · simp [Record.required, Record.withDefault, Record.optionalDefault, Record.get?,
      List.lookup_cons, Datum.asString?, Datum.asStrings?_ofStrings, hunique,
      Datum.asOption?_ofOption_str]
  · rfl
  · decide

theorem TableDeclaration.decode?_fieldsJson {t : TableDeclaration} (ht : t.Representable) :
    decode? (Json.obj t.fieldsJson).toDatumSkipping = some t := by
  have hcolumns : Datum.asList? ColumnDescriptor.decode?
      (Json.arr (t.columns.map ColumnDescriptor.toJson)).toDatumSkipping = some t.columns :=
    Datum.asList?_arr fun c hc => ColumnDescriptor.decode?_toJson (ht c hc)
  have hindexes : Datum.asOption? (Datum.asList? IndexDeclaration.decode?)
      (Json.ofOption (fun is => .arr (is.map IndexDeclaration.toJson)) t.indexes).toDatumSkipping =
      some t.indexes :=
    Datum.asOption?_ofOption fun is _ =>
      ⟨by simp [Json.toDatumSkipping_arr], Datum.asList?_arr fun i _ => i.decode?_toJson⟩
  have hkeys : Datum.asList? ForeignKey.decode?
      (Json.arr (t.foreignKeys.map ForeignKey.toJson)).toDatumSkipping = some t.foreignKeys :=
    Datum.asList?_arr fun f _ => f.decode?_toJson
  rw [decode?, fieldsJson, Record.of?_obj]
  · simp [Record.required, Record.withDefault, Record.optionalDefault, Record.get?,
      List.lookup_cons, Datum.asString?, hcolumns, hindexes, hkeys]
  · rfl
  · decide

theorem RelationConfig.decode?_toJson (c : RelationConfig) :
    decode? c.toJson.toDatumSkipping = some c := by
  have hoptional : Datum.asOption? Datum.asBool? (Json.ofOption .bool c.optional).toDatumSkipping =
      some c.optional :=
    Datum.asOption?_ofOption fun _ _ => ⟨nofun, rfl⟩
  rw [decode?, toJson, Record.of?_obj]
  · simp [Record.withDefault, Record.optionalDefault, Record.get?, List.lookup_cons,
      Datum.asStrings?_ofStrings, hoptional, Datum.asOption?_ofOption_str]
  · rfl
  · decide

theorem RelationDescriptor.decode?_toJson {d : RelationDescriptor} (hd : d.Decoded) :
    decode? d.toJson.toDatumSkipping = some d := by
  have hconfig : Datum.asOption? RelationConfig.decode?
      (Json.ofOption RelationConfig.toJson d.config).toDatumSkipping = some d.config :=
    Datum.asOption?_ofOption fun c _ =>
      ⟨by simp [RelationConfig.toJson, Json.toDatumSkipping_obj], c.decode?_toJson⟩
  have hcardinality : Cardinality.ofTag d.cardinality.tag = d.cardinality := hd
  rw [decode?, toJson, Record.of?_obj]
  · simp [Record.required, Record.withDefault, Record.optionalDefault, Record.get?,
      List.lookup_cons, Datum.asString?, hconfig, hcardinality]
  · rfl
  · decide

/-- An entry written as its kind followed by members of other names reads as the declaration
its kind names, made from those members. -/
theorem Entry.decode?_tagged (tag : String) {fields : List (String × Json)}
    (hnames : ∀ f ∈ fields, f.1 ≠ "kind") :
    decode? (Json.obj (("kind", .str tag) :: fields)).toDatumSkipping =
      ofTagged? tag (Json.obj fields).toDatumSkipping := by
  have hkind : ((fields.map fun f => ((FieldKey.name f.1 : FieldKey), f.2.toDatumSkipping)).filter
      fun m => m.1 == .name "kind") = [] := by
    simp only [List.filter_eq_nil_iff, List.mem_map]
    rintro _ ⟨f, hf, rfl⟩
    simpa using hnames f hf
  have hrest : ((fields.map fun f => ((FieldKey.name f.1 : FieldKey), f.2.toDatumSkipping)).filter
      fun m => m.1 != .name "kind") = fields.map fun f => (.name f.1, f.2.toDatumSkipping) := by
    rw [List.filter_eq_self]
    rintro _ hm
    obtain ⟨f, hf, rfl⟩ := List.mem_map.mp hm
    simpa using hnames f hf
  rw [Json.toDatumSkipping_obj, Json.toDatumSkipping_obj]
  simp [decode?, hkind, hrest]

theorem Entry.decode?_toJson {e : Entry} (he : e.Representable) :
    decode? e.toJson.toDatumSkipping = some e := by
  cases e with
  | table t =>
    rw [toJson, decode?_tagged _ (by simp [TableDeclaration.fieldsJson])]
    simp [ofTagged?, TableDeclaration.decode?_fieldsJson he]
  | relations s =>
    have hrelations : Datum.asList? RelationDescriptor.decode?
        (Json.arr (s.relations.map RelationDescriptor.toJson)).toDatumSkipping = some s.relations :=
      Datum.asList?_arr fun d hd => RelationDescriptor.decode?_toJson (he d hd)
    rw [toJson, decode?_tagged _ (by simp)]
    simp only [ofTagged?]
    rw [RelationSet.decode?, Record.of?_obj]
    · simp [Record.required, Record.withDefault, Record.get?, List.lookup_cons, Datum.asString?,
        hrelations]
    · rfl
    · decide
  | enum en =>
    rw [toJson, decode?_tagged _ (by simp)]
    simp only [ofTagged?, if_pos]
    rw [EnumDeclaration.decode?, Record.of?_obj]
    · simp [Record.required, Record.withDefault, Record.get?, List.lookup_cons, Datum.asString?,
        Datum.asStrings?_ofStrings]
    · rfl
    · decide
  | other =>
    rw [toJson, decode?_tagged _ (by simp)]
    rfl

/-! ## How deep a snapshot's JSON nests -/

namespace Json

@[simp] theorem depth_null : null.depth = 0 := rfl

@[simp] theorem depth_bool (b : Bool) : (bool b).depth = 0 := rfl

@[simp] theorem depth_num (literal : String) : (num literal).depth = 0 := rfl

@[simp] theorem depth_str (s : String) : (str s).depth = 0 := rfl

theorem depthItems_le {n : Nat} :
    ∀ {items : List Json}, depth.depthItems items ≤ n ↔ ∀ j ∈ items, j.depth ≤ n
  | [] => by simp [depth.depthItems]
  | j :: js => by
    rw [depth.depthItems, Nat.max_le, depthItems_le]
    simp

theorem depthFields_le {n : Nat} :
    ∀ {fields : List (String × Json)}, depth.depthFields fields ≤ n ↔ ∀ f ∈ fields, f.2.depth ≤ n
  | [] => by simp [depth.depthFields]
  | (_, j) :: fs => by
    rw [depth.depthFields, Nat.max_le, depthFields_le]
    simp

theorem depth_arr_le {items : List Json} {n : Nat} :
    (arr items).depth ≤ n + 1 ↔ ∀ j ∈ items, j.depth ≤ n := by
  rw [depth, ← depthItems_le]
  omega

theorem depth_obj_le {fields : List (String × Json)} {n : Nat} :
    (obj fields).depth ≤ n + 1 ↔ ∀ f ∈ fields, f.2.depth ≤ n := by
  rw [depth, ← depthFields_le]
  omega

theorem depth_ofOption_le {α : Type} {f : α → Json} {n : Nat} (hf : ∀ a, (f a).depth ≤ n)
    (o : Option α) : (ofOption f o).depth ≤ n := by
  cases o with
  | none => exact Nat.zero_le n
  | some a => exact hf a

@[simp] theorem depth_ofOption_str (o : Option String) : (ofOption .str o).depth = 0 := by
  cases o <;> rfl

@[simp] theorem depth_ofOption_bool (o : Option Bool) : (ofOption .bool o).depth = 0 := by
  cases o <;> rfl

theorem depth_ofStrings_le (xs : List String) : (ofStrings xs).depth ≤ 1 :=
  depth_arr_le.mpr fun j hj => by
    obtain ⟨s, -, rfl⟩ := List.mem_map.mp hj
    exact Nat.le_refl 0

end Json

theorem DefaultValue.depth_toJson (v : DefaultValue) : v.toJson.depth = 0 := by
  cases v with
  | float x =>
    simp only [toJson, Json.ofBinary64]
    split <;> rfl
  | bool _ | int _ | text _ => rfl

theorem ColumnDescriptor.depth_toJson_le (c : ColumnDescriptor) : c.toJson.depth ≤ 1 := by
  have hdefault : (Json.ofOption DefaultValue.toJson c.defaultValue).depth = 0 :=
    Nat.le_zero.mp (Json.depth_ofOption_le (fun v => Nat.le_of_eq (DefaultValue.depth_toJson v)) _)
  have hlength : (Json.ofOption Json.ofNat c.length).depth = 0 :=
    Nat.le_zero.mp (Json.depth_ofOption_le (fun _ => Nat.le_refl 0) _)
  rw [toJson, Json.depth_obj_le]
  simp [hdefault, hlength]

theorem ForeignKey.depth_toJson_le (f : ForeignKey) : f.toJson.depth ≤ 2 := by
  rw [toJson, Json.depth_obj_le]
  simp [Json.depth_ofStrings_le]

theorem IndexDeclaration.depth_toJson_le (i : IndexDeclaration) : i.toJson.depth ≤ 2 := by
  rw [toJson, Json.depth_obj_le]
  simp [Json.depth_ofStrings_le]

theorem RelationDescriptor.depth_toJson_le (d : RelationDescriptor) : d.toJson.depth ≤ 3 := by
  have hconfig : ∀ c : RelationConfig, c.toJson.depth ≤ 2 := fun c => by
    rw [RelationConfig.toJson, Json.depth_obj_le]
    simp [Json.depth_ofStrings_le]
  rw [toJson, Json.depth_obj_le]
  simp [Json.depth_ofOption_le hconfig]

/-- An entry's JSON nests at most five levels: a relation set, its list, a relation, its
settings, and their key lists. -/
theorem Entry.depth_toJson_le (e : Entry) : e.toJson.depth ≤ 5 := by
  cases e with
  | table t =>
    rw [toJson, Json.depth_obj_le]
    simp only [List.mem_cons, TableDeclaration.fieldsJson, forall_eq_or_imp, Json.depth_str,
      Nat.zero_le, true_and, List.not_mem_nil, false_imp_iff, implies_true, and_true]
    refine ⟨?_, ?_, ?_⟩
    · exact Json.depth_arr_le.mpr fun j hj => by
        obtain ⟨c, -, rfl⟩ := List.mem_map.mp hj
        exact Nat.le_trans c.depth_toJson_le (by omega)
    · refine Json.depth_ofOption_le (fun is => Json.depth_arr_le.mpr fun j hj => ?_) _
      obtain ⟨i, -, rfl⟩ := List.mem_map.mp hj
      exact Nat.le_trans i.depth_toJson_le (by omega)
    · exact Json.depth_arr_le.mpr fun j hj => by
        obtain ⟨f, -, rfl⟩ := List.mem_map.mp hj
        exact Nat.le_trans f.depth_toJson_le (by omega)
  | relations s =>
    rw [toJson, Json.depth_obj_le]
    simp only [List.mem_cons, forall_eq_or_imp, Json.depth_str, Nat.zero_le, true_and,
      List.not_mem_nil, false_imp_iff, implies_true, and_true]
    exact Json.depth_arr_le.mpr fun j hj => by
      obtain ⟨d, -, rfl⟩ := List.mem_map.mp hj
      exact d.depth_toJson_le
  | enum en =>
    rw [toJson, Json.depth_obj_le]
    simpa using Nat.le_trans (Json.depth_ofStrings_le en.values) (by omega)
  | other =>
    rw [toJson, Json.depth_obj_le]
    simp

namespace Graph

theorem entriesOfJson?_toJson {entries : List Entry} (h : ∀ e ∈ entries, e.Representable) :
    entriesOfJson? (Json.arr (entries.map Entry.toJson)) = some entries := by
  rw [entriesOfJson?, List.mapM_map]
  have hread := mapM_eq_some_map (g := id) fun e he => show (Entry.toJson e).toDatum? >>=
      Entry.decode? = some e by
    rw [Json.toDatum?_of_readable (Entry.readable_toJson (h e he)), Option.bind_eq_bind,
      Option.bind_some, Entry.decode?_toJson (h e he)]
  simpa [Function.comp_def] using hread

theorem ofJson?_toJson {g : Graph} (hg : g.Representable) : ofJson? g.toJson = some g := by
  -- the entries nest six levels, far below the limit
  have hdepth : (Json.arr (g.entries.map Entry.toJson)).depth ≤ 5 + 1 :=
    Json.depth_arr_le.mpr fun j hj => by
      obtain ⟨e, -, rfl⟩ := List.mem_map.mp hj
      exact e.depth_toJson_le
  have hshallow : ¬ nestingLimit < (Json.arr (g.entries.map Entry.toJson)).depth + 1 := by
    simp only [nestingLimit]
    omega
  have hversion : versionOfJson? (Json.ofOption .str g.version) = some g.version := by
    cases g.version <;> rfl
  simp [ofJson?, toJson, Record.hasRepeat, List.lookup_cons, hversion, hshallow,
    entriesOfJson?_toJson hg]

/-- The compact JSON text of a snapshot that its text carries reads back to it. -/
theorem parseText_json_compact {g : Graph} (hg : g.Representable) :
    parseText .json (Json.compact g.toJson) = .ok g := by
  simp [parseText, parseJson?, Json.parse?_compact _ g.writable_toJson, ofJson?_toJson hg]

theorem Decoded.doubleDefaults_isFinite {g : Graph} (hg : g.Decoded) :
    ∀ x ∈ g.doubleDefaults, x.isFinite = true := by
  intro x hx
  obtain ⟨t, ht, c, hc, hdv⟩ := mem_doubleDefaults.mp hx
  exact (hg _ ht c hc).defaultValue (.float x) hdv

end Graph

/-! ## The round trip -/

theorem eq_ok_of_toOption {ε α : Type} {x : Except ε α} {a : α} (h : x.toOption = some a) :
    x = .ok a := by
  cases x with
  | error e => cases h
  | ok a' =>
    cases h
    rfl

namespace Graph

/-- Every snapshot a reader returns, from JSON or from YAML text, has finite double defaults,
and its compact JSON text reads back to it whenever those doubles come back bit for bit from
their data layout. -/
theorem parseText_json_round_trip {format : SnapshotFormat} {text : String} {g : Graph}
    (h : parseText format text = .ok g) :
    (∀ x ∈ g.doubleDefaults, x.isFinite = true) ∧
      ((∀ x ∈ g.doubleDefaults, x.ReadsBack) →
        parseText .json (Json.compact g.toJson) = .ok g) :=
  have hg := decoded_of_parseText h
  ⟨hg.doubleDefaults_isFinite,
    fun hread => parseText_json_compact (representable_of_decoded hg hread)⟩

/-- One table with one column whose default is the double `x`. -/
def doubleDefaultGraph (x : Binary64) : Graph where
  entries := [.table
    { binding := "T"
      name := "T"
      columns := [{ aliasName := "c", name := "c", storage := .numeric,
                    defaultValue := some (.float x) }] }]

/-- That snapshot as JSON, its default written as `literal`. -/
def doubleDefaultJson (literal : String) : Json :=
  .obj [("entries", .arr [.obj [("kind", .str "table"), ("binding", .str "T"), ("name", .str "T"),
    ("columns", .arr [.obj [("alias", .str "c"), ("name", .str "c"), ("storage", .str "numeric"),
      ("default_value", .num literal)]])]])]

/-- The default `0.5` is read exactly, and the snapshot comes back from its JSON text. -/
theorem halfDefaultGraph_round_trip :
    parseText .json (Json.compact (doubleDefaultJson "0.5")) =
        .ok (doubleDefaultGraph ⟨4602678819172646912⟩) ∧
      parseText .json (Json.compact (doubleDefaultGraph ⟨4602678819172646912⟩).toJson) =
        .ok (doubleDefaultGraph ⟨4602678819172646912⟩) :=
  have h : parseText .json (Json.compact (doubleDefaultJson "0.5")) =
      .ok (doubleDefaultGraph ⟨4602678819172646912⟩) :=
    eq_ok_of_toOption (by decide +kernel)
  ⟨h, (parseText_json_round_trip h).2 (by decide +kernel)⟩

/-- The literal `49e-31` reads the fast way as the double `4.9000000000000004e-30`, whose JSON
text reads back as its lower neighbour `4.9e-30`: the snapshot does not come back. -/
theorem fastDefaultGraph_json_drifts :
    parseText .json (Json.compact (doubleDefaultJson "49e-31")) =
        .ok (doubleDefaultGraph ⟨4168319569384597508⟩) ∧
      parseText .json (Json.compact (doubleDefaultGraph ⟨4168319569384597508⟩).toJson) =
        .ok (doubleDefaultGraph ⟨4168319569384597507⟩) ∧
      doubleDefaultGraph ⟨4168319569384597507⟩ ≠ doubleDefaultGraph ⟨4168319569384597508⟩ :=
  ⟨eq_ok_of_toOption (by decide +kernel), eq_ok_of_toOption (by decide +kernel), by decide⟩

end Graph

end SchemaNorm
