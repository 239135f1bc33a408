import SchemaNorm.Proofs.DecimalText
import SchemaNorm.Schema.Decode
import SchemaNorm.Schema.Encode
import SchemaNorm.Checksum

/-!
Normalized schemas survive their JSON text. The compact text of a schema reads back to the
schema, every default keeping its kind and its bits (`1` against `1.0`, `-0.0` against `0.0`,
`"true"` against `true`), as long as its defaults fit the data format: integers of 64 signed
bits, length hints of 32 bits, and finite doubles that the reader reads back from their data
layout.

The canonical text needs less. Whenever every double default is finite, two schemas share
their canonical text, hence their checksum, exactly when they share their content: the
writer is injective there, whatever the reader makes of the text. Integers are told apart by
their digits, doubles by their data layout, which is injective and always holds a point or an
exponent, and every other part by its own decoder. A double that is not finite has no JSON
number and is written as `null`, like a missing default: those two columns share one text.
-/

namespace SchemaNorm

/-! ## Decoded values -/

section Lists

theorem mapM_eq_some_map {α β : Type} {f : α → Option β} {g : α → β} {l : List α}
    (h : ∀ a ∈ l, f a = some (g a)) : l.mapM f = some (l.map g) := by
  induction l with
  | nil => rfl
  | cons a as ih =>
    rw [List.mapM_cons, h a List.mem_cons_self,
      ih fun a' ha' => h a' (List.mem_cons_of_mem _ ha')]
    rfl

/-- A map that tells apart the members of two lists tells the lists apart. -/
theorem eq_of_map_eq {α β : Type} {f : α → β} {p : α → Prop}
    (hf : ∀ a b, p a → p b → f a = f b → a = b) :
    ∀ {l l' : List α}, (∀ a ∈ l, p a) → (∀ b ∈ l', p b) → l.map f = l'.map f → l = l'
  | [], [], _, _, _ => rfl
  | a :: as, b :: bs, hl, hl', h => by
    rw [List.map_cons, List.map_cons, List.cons.injEq] at h
    have hhead := hf a b (hl a List.mem_cons_self) (hl' b List.mem_cons_self) h.1
    have htail := eq_of_map_eq hf (fun a' ha' => hl a' (List.mem_cons_of_mem _ ha'))
      (fun b' hb' => hl' b' (List.mem_cons_of_mem _ hb')) h.2
    rw [hhead, htail]

end Lists

namespace Json

theorem toDatumSkipping_arr (items : List Json) :
    (arr items).toDatumSkipping = .seq (items.map toDatumSkipping) := by
  rw [toDatumSkipping]
  induction items with
  | nil => rfl
  | cons j js ih =>
    rw [itemsSkipping, List.map_cons, Datum.seq.inj ih]

theorem toDatumSkipping_obj (fields : List (String × Json)) :
    (obj fields).toDatumSkipping = .map (fields.map fun f => (.name f.1, f.2.toDatumSkipping)) := by
  rw [toDatumSkipping]
  induction fields with
  | nil => rfl
  | cons f fs ih =>
    obtain ⟨k, j⟩ := f
    rw [fieldsSkipping, List.map_cons, Datum.map.inj ih]

end Json

namespace Record

/-- The members of an object are all read as named fields. -/
theorem mapM_fieldOf?_obj (known : List String) (fields : List (String × Json)) :
    ((fields.map fun f => ((FieldKey.name f.1 : FieldKey), f.2.toDatumSkipping)).mapM
      fun (k, d) => (fieldOf? known k).map fun f => (f, d)) =
      some (fields.map fun f => (some f.1, f.2.toDatumSkipping)) := by
  rw [List.mapM_map]
  exact mapM_eq_some_map fun _ _ => rfl

/-- Fields that all have names are all kept. -/
theorem filterMap_named_obj (fields : List (String × Json)) :
    (fields.map fun f => (some f.1, f.2.toDatumSkipping)).filterMap
      (fun (f, d) => f.map (·, d)) = fields.map fun f => (f.1, f.2.toDatumSkipping) := by
  rw [List.filterMap_map]
  exact congrFun (List.filterMap_eq_map (f := fun f => (f.1, f.2.toDatumSkipping))) fields

/-- A record read from an object whose member names are exactly the field names, each once,
holds the members in order. -/
theorem of?_obj {known : List String} (fields : List (String × Json))
    (hknown : fields.map Prod.fst = known) (hnodup : known.Nodup) :
    of? known (Json.obj fields).toDatumSkipping =
      some ⟨fields.map fun f => (f.1, f.2.toDatumSkipping), false⟩ := by
  -- no known name occurs twice
  have hrepeat : hasRepeat known known = false := by
    rw [hasRepeat, List.any_eq_false]
    intro name _
    have := List.nodup_iff_count.mp hnodup name
    simp only [decide_eq_true_eq]
    omega
  simp only [Json.toDatumSkipping_obj, of?, mapM_fieldOf?_obj, Option.bind_eq_bind,
    Option.bind_some, filterMap_named_obj, List.map_map]
  rw [show (Prod.fst ∘ fun f : String × Json => (f.1, f.2.toDatumSkipping)) = Prod.fst from rfl,
    hknown, hrepeat]
  rfl

end Record

/-! ## What the data format carries -/

namespace DefaultValue

/-- A default that keeps its kind and value through the JSON text: an integer of 64 signed
bits, a finite double whose data layout reads back to the same bits, any Boolean or text. -/
def Representable : DefaultValue → Prop
  | .int i => -2 ^ 63 ≤ i ∧ i < 2 ^ 63
  | .float x => x.isFinite = true ∧ x.ReadsBack
  | .bool _ | .text _ => True

instance : DecidablePred Representable := fun v => by
  cases v <;> unfold Representable <;> infer_instance

/-- A default written as a value rather than as `null`: anything but a double that is not
finite. -/
def Finite : DefaultValue → Prop
  | .float x => x.isFinite = true
  | .int _ | .bool _ | .text _ => True

instance : DecidablePred Finite := fun v => by
  cases v <;> unfold Finite <;> infer_instance

end DefaultValue

/-- A column whose default is representable and whose length hint fits 32 bits. -/
def Column.Representable (c : Column) : Prop :=
  (∀ v ∈ c.defaultValue, v.Representable) ∧ ∀ n ∈ c.lengthHint, n < 2 ^ 32

instance : DecidablePred Column.Representable := fun _ =>
  inferInstanceAs (Decidable (_ ∧ _))

def Model.Representable (m : Model) : Prop := ∀ c ∈ m.columns, c.Representable

instance : DecidablePred Model.Representable := fun m =>
  inferInstanceAs (Decidable (∀ c ∈ m.columns, c.Representable))

def Schema.Representable (s : Schema) : Prop := ∀ m ∈ s.models, m.Representable

instance : DecidablePred Schema.Representable := fun s =>
  inferInstanceAs (Decidable (∀ m ∈ s.models, m.Representable))

/-- A column whose default, if any, is finite. -/
def Column.FiniteDefault (c : Column) : Prop := ∀ v ∈ c.defaultValue, v.Finite

instance : DecidablePred Column.FiniteDefault := fun c =>
  inferInstanceAs (Decidable (∀ v ∈ c.defaultValue, v.Finite))

def Model.FiniteDefaults (m : Model) : Prop := ∀ c ∈ m.columns, c.FiniteDefault

instance : DecidablePred Model.FiniteDefaults := fun m =>
  inferInstanceAs (Decidable (∀ c ∈ m.columns, c.FiniteDefault))

/-- A schema whose defaults are all finite: the ones the JSON text writes as values. -/
def Schema.FiniteDefaults (s : Schema) : Prop := ∀ m ∈ s.models, m.FiniteDefaults

instance : DecidablePred Schema.FiniteDefaults := fun s =>
  inferInstanceAs (Decidable (∀ m ∈ s.models, m.FiniteDefaults))

namespace Json

theorem writable_str (s : String) : (str s).Writable := trivial

theorem fieldsWritable_append :
    ∀ {fs gs : List (String × Json)}, FieldsWritable fs → FieldsWritable gs →
      FieldsWritable (fs ++ gs)
  | [], _, _, hgs => hgs
  | (_, _) :: _, _, ⟨hj, hfs⟩, hgs => ⟨hj, fieldsWritable_append hfs hgs⟩

theorem writable_ofOption {α : Type} {f : α → Json} (hf : ∀ a, (f a).Writable) :
    ∀ o, (ofOption f o).Writable
  | some a => hf a
  | none => trivial

theorem itemsWritable_map {α : Type} {f : α → Json} (hf : ∀ a, (f a).Writable) :
    ∀ xs : List α, ItemsWritable (xs.map f)
  | [] => trivial
  | a :: as => ⟨hf a, itemsWritable_map hf as⟩

theorem writable_ofStrings (xs : List String) : (ofStrings xs).Writable :=
  itemsWritable_map writable_str xs

theorem writable_ofNat (n : Nat) : (ofNat n).Writable := numberLiteral_repr n

theorem writable_ofBinary64 (x : Binary64) : (ofBinary64 x).Writable := by
  unfold ofBinary64
  split
  · exact numberLiteral_layoutFinite x
  · trivial

end Json

theorem DefaultValue.writable_toJson : ∀ v : DefaultValue, v.toJson.Writable
  | .bool _ => trivial
  | .int i => Json.numberLiteral_toString_int i
  | .float x => Json.writable_ofBinary64 x
  | .text _ => trivial

theorem Column.writable_toJson (c : Column) : c.toJson.Writable := by
  simp [toJson, Json.Writable, Json.FieldsWritable,
    Json.writable_ofOption DefaultValue.writable_toJson,
    Json.writable_ofOption Json.writable_str,
    Json.writable_ofOption Json.writable_ofNat]

theorem Relation.writable_toJson (r : Relation) : r.toJson.Writable := by
  cases r <;> simp [toJson, Json.Writable, Json.FieldsWritable, Json.writable_ofStrings,
    Json.writable_ofOption Json.writable_str]

theorem Index.writable_toJson (i : Index) : i.toJson.Writable := by
  simp [toJson, Json.Writable, Json.FieldsWritable, Json.writable_ofStrings]

theorem Model.writable_toJson (m : Model) : m.toJson.Writable := by
  simp [toJson, Json.Writable, Json.FieldsWritable,
    Json.itemsWritable_map Column.writable_toJson, Json.itemsWritable_map Relation.writable_toJson,
    Json.itemsWritable_map Index.writable_toJson]

theorem Enumeration.writable_toJson (e : Enumeration) : e.toJson.Writable := by
  simp [toJson, Json.Writable, Json.FieldsWritable, Json.writable_ofStrings]

theorem Warning.writable_toJson (w : Warning) : w.toJson.Writable := by
  have hlocation : ∀ l : Location, l.toJson.Writable := fun l => by
    simp [Location.toJson, Json.Writable, Json.FieldsWritable,
      Json.writable_ofOption Json.writable_str]
  simp [toJson, Json.Writable, Json.FieldsWritable, Json.writable_ofOption hlocation]

/-- The content members of every schema are written as readable text. -/
theorem Schema.writable_contentFields (s : Schema) : (Json.obj s.contentFields).Writable := by
  simp [contentFields, Json.Writable, Json.FieldsWritable,
    Json.itemsWritable_map Model.writable_toJson,
    Json.itemsWritable_map Enumeration.writable_toJson,
    Json.itemsWritable_map Relation.writable_toJson, Json.itemsWritable_map Warning.writable_toJson]

theorem Schema.writable_toJson (s : Schema) : s.toJson.Writable :=
  Json.fieldsWritable_append s.writable_contentFields ⟨trivial, trivial⟩

/-! ## Reading back each part -/

namespace Json

@[simp] theorem toDatumSkipping_str (s : String) : (str s).toDatumSkipping = .str s := rfl

@[simp] theorem toDatumSkipping_bool (b : Bool) : (bool b).toDatumSkipping = .bool b := rfl

theorem toDatumSkipping_ofNat {n : Nat} (hn : n < 2 ^ 64) :
    (ofNat n).toDatumSkipping = .num (.nat n) := by
  simp [ofNat, toDatumSkipping, Number.ofLiteral?_repr hn]

theorem toDatumSkipping_ofInt {i : Int} (hlo : -2 ^ 63 ≤ i) (hhi : i < 2 ^ 63) :
    (ofInt i).toDatumSkipping = .num (if 0 ≤ i then .nat i.toNat else .negInt i) := by
  unfold ofInt toDatumSkipping
  split
  · rename_i hpos
    have hrepr : toString i = i.toNat.repr := by
      rw [Int.toString_eq_repr, Int.repr_eq_if, if_pos hpos]
    rw [hrepr, Number.ofLiteral?_repr (by omega)]
    rfl
  · rw [Number.ofLiteral?_toString_neg (by omega) hlo]
    rfl

end Json

theorem DefaultValue.decode?_toJson {v : DefaultValue} (hv : v.Representable) :
    v.toJson.toDatumSkipping ≠ .null ∧ decode? v.toJson.toDatumSkipping = some v := by
  cases v with
  | bool b => exact ⟨nofun, rfl⟩
  | int i =>
    obtain ⟨hlo, hhi⟩ := hv
    rw [toJson, Json.toDatumSkipping_ofInt hlo hhi]
    refine ⟨nofun, ?_⟩
    split
    · rename_i hpos
      simp only [decode?, Nat.pow_eq]
      rw [if_pos (by omega), Int.toNat_of_nonneg hpos]
    · rfl
  | float x =>
    obtain ⟨hfinite, hread⟩ := hv
    rw [Binary64.readsBack_iff] at hread
    simp only [toJson, Json.ofBinary64, hfinite, if_true, Json.toDatumSkipping, hread]
    exact ⟨nofun, rfl⟩
  | text s => exact ⟨nofun, rfl⟩

namespace Datum

/-- An optional value written as `null` when absent reads back, as long as a present value is
never written as `null`. -/
theorem asOption?_ofOption {α : Type} {f : α → Json} {dec : Datum → Option α} {o : Option α}
    (h : ∀ a ∈ o, (f a).toDatumSkipping ≠ .null ∧ dec (f a).toDatumSkipping = some a) :
    asOption? dec (Json.ofOption f o).toDatumSkipping = some o := by
  cases o with
  | none => rfl
  | some a =>
    obtain ⟨hnull, hdec⟩ := h a rfl
    rw [Json.ofOption, asOption?.eq_2 _ _ hnull, hdec]
    rfl

theorem asList?_arr {α : Type} {f : α → Json} {dec : Datum → Option α} {xs : List α}
    (h : ∀ a ∈ xs, dec (f a).toDatumSkipping = some a) :
    asList? dec (Json.arr (xs.map f)).toDatumSkipping = some xs := by
  rw [Json.toDatumSkipping_arr, asList?, List.mapM_map]
  have := mapM_eq_some_map (f := (dec ∘ Json.toDatumSkipping) ∘ f) (g := id) h
  simpa using this

theorem asOption?_ofOption_str (o : Option String) :
    asOption? asString? (Json.ofOption .str o).toDatumSkipping = some o :=
  asOption?_ofOption fun _ _ => ⟨nofun, rfl⟩

theorem asStrings?_ofStrings (xs : List String) :
    asStrings? (Json.ofStrings xs).toDatumSkipping = some xs :=
  asList?_arr fun _ _ => rfl

end Datum

theorem ColumnType.decode?_tag (t : ColumnType) : decode? (.str t.tag) = some t := by
  cases t <;> rfl

theorem Direction.decode?_tag (d : Direction) : decode? (.str d.tag) = some d := by
  cases d <;> rfl

theorem IndexKind.decode?_tag (k : IndexKind) : decode? (.str k.tag) = some k := by
  cases k <;> rfl

theorem Datum.asU32?_ofNat {n : Nat} (hn : n < 2 ^ 32) :
    (Json.ofNat n).toDatumSkipping ≠ .null ∧
      asU32? (Json.ofNat n).toDatumSkipping = some n := by
  rw [Json.toDatumSkipping_ofNat (by omega)]
  refine ⟨nofun, ?_⟩
  simp only [asU32?, Nat.pow_eq]
  rw [if_pos hn]

theorem Column.decode?_toJson {c : Column} (hc : c.Representable) :
    decode? c.toJson.toDatumSkipping = some c := by
  -- the optional default and length hint read back
  have hdefault : Datum.asOption? DefaultValue.decode?
      (Json.ofOption DefaultValue.toJson c.defaultValue).toDatumSkipping = some c.defaultValue :=
    Datum.asOption?_ofOption fun v hv => DefaultValue.decode?_toJson (hc.1 v hv)
  have hlength : Datum.asOption? Datum.asU32?
      (Json.ofOption Json.ofNat c.lengthHint).toDatumSkipping = some c.lengthHint :=
    Datum.asOption?_ofOption fun n hn => Datum.asU32?_ofNat (hc.2 n hn)
  rw [decode?, toJson, Record.of?_obj]
  · -- the members are looked up by name; then the optional ones read back
    simp only [List.map_cons, List.map_nil]
    dsimp only [Record.required, Record.optional, Record.get?, Option.bind_eq_bind,
      List.lookup_cons, Json.toDatumSkipping_str, Json.toDatumSkipping_bool, Datum.asString?,
      Datum.asBool?, Option.bind_some, String.reduceBEq]
    rw [ColumnType.decode?_tag, hdefault, Datum.asOption?_ofOption_str, hlength]
    rfl
  -- the names written are the record's field names, each once
  · rfl
  · decide

theorem OneRelation.decode?_obj (r : OneRelation) :
    decode? (Json.obj [("declared_name", .str r.declaredName), ("alias", .str r.aliasName),
      ("relation_name", Json.ofOption .str r.relationName), ("source_model", .str r.sourceModel),
      ("reference_model", .str r.referenceModel),
      ("source_fields", Json.ofStrings r.sourceFields),
      ("reference_fields", Json.ofStrings r.referenceFields),
      ("is_optional", .bool r.isOptional), ("direction", .str r.direction.tag)]).toDatumSkipping =
      some r := by
  rw [decode?, Record.of?_obj]
  · simp [Record.required, Record.optional, Record.get?, List.lookup_cons,
      Direction.decode?_tag, Datum.asString?, Datum.asBool?, Datum.asStrings?_ofStrings,
      Datum.asOption?_ofOption_str]
  · rfl
  · decide

theorem ManyRelation.decode?_obj (r : ManyRelation) :
    decode? (Json.obj [("declared_name", .str r.declaredName), ("source_model", .str r.sourceModel),
      ("reference_model", .str r.referenceModel),
      ("direction", .str r.direction.tag)]).toDatumSkipping = some r := by
  rw [decode?, Record.of?_obj]
  · simp [Record.required, Record.get?, List.lookup_cons,
      Direction.decode?_tag, Datum.asString?]
  · rfl
  · decide

/-- A relation reads back through its leading `kind` member. -/
theorem Relation.decode?_toJson (r : Relation) : decode? r.toJson.toDatumSkipping = some r := by
  cases r with
  | one o =>
    rw [toJson, Json.toDatumSkipping_obj]
    simp only [decode?, List.map_cons, List.map_nil, List.filter_cons, List.filter_nil]
    simp [ofTagged?, ← OneRelation.decode?_obj o, Json.toDatumSkipping_obj]
  | many m =>
    rw [toJson, Json.toDatumSkipping_obj]
    simp only [decode?, List.map_cons, List.map_nil, List.filter_cons, List.filter_nil]
    simp [ofTagged?, ← ManyRelation.decode?_obj m, Json.toDatumSkipping_obj]

theorem Index.decode?_toJson (i : Index) : decode? i.toJson.toDatumSkipping = some i := by
  rw [decode?, toJson, Record.of?_obj]
  · simp [Record.required, Record.get?, List.lookup_cons,
      IndexKind.decode?_tag, Datum.asString?, Datum.asStrings?_ofStrings]
  · rfl
  · decide

theorem Model.decode?_toJson {m : Model} (hm : m.Representable) :
    decode? m.toJson.toDatumSkipping = some m := by
  have hcolumns : Datum.asList? Column.decode?
      (Json.arr (m.columns.map Column.toJson)).toDatumSkipping = some m.columns :=
    Datum.asList?_arr fun c hc => Column.decode?_toJson (hm c hc)
  have hrelations : Datum.asList? Relation.decode?
      (Json.arr (m.relations.map Relation.toJson)).toDatumSkipping = some m.relations :=
    Datum.asList?_arr fun r _ => Relation.decode?_toJson r
  have hindexes : Datum.asList? Index.decode?
      (Json.arr (m.indexes.map Index.toJson)).toDatumSkipping = some m.indexes :=
    Datum.asList?_arr fun i _ => Index.decode?_toJson i
  rw [decode?, toJson, Record.of?_obj]
  · simp [Record.required, Record.get?, List.lookup_cons, Datum.asString?, hcolumns, hrelations,
      hindexes]
  · rfl
  · decide

theorem Enumeration.decode?_toJson (e : Enumeration) :
    decode? e.toJson.toDatumSkipping = some e := by
  rw [decode?, toJson, Record.of?_obj]
  · simp [Record.required, Record.get?, List.lookup_cons, Datum.asString?,
      Datum.asStrings?_ofStrings]
  · rfl
  · decide

theorem Location.decode?_toJson (l : Location) : decode? l.toJson.toDatumSkipping = some l := by
  rw [decode?, toJson, Record.of?_obj]
  · simp [Record.optional, Record.get?, List.lookup_cons, Datum.asOption?_ofOption_str]
  · rfl
  · decide

theorem Warning.decode?_toJson (w : Warning) : decode? w.toJson.toDatumSkipping = some w := by
  have hlocation : Datum.asOption? Location.decode?
      (Json.ofOption Location.toJson w.location).toDatumSkipping = some w.location :=
    Datum.asOption?_ofOption fun l _ => ⟨by simp [Location.toJson, Json.toDatumSkipping],
      Location.decode?_toJson l⟩
  rw [decode?, toJson, Record.of?_obj]
  · simp [Record.required, Record.optional, Record.get?, List.lookup_cons,
      Datum.asString?, Datum.variantName?, kindTag, hlocation]
  · rfl
  · decide

theorem Schema.decode?_toJson {s : Schema} (hs : s.Representable) :
    decode? s.toJson.toDatumSkipping = some s := by
  have hmodels : Datum.asList? Model.decode?
      (Json.arr (s.models.map Model.toJson)).toDatumSkipping = some s.models :=
    Datum.asList?_arr fun m hm => Model.decode?_toJson (hs m hm)
  have henums : Datum.asList? Enumeration.decode?
      (Json.arr (s.enums.map Enumeration.toJson)).toDatumSkipping = some s.enums :=
    Datum.asList?_arr fun e _ => Enumeration.decode?_toJson e
  have hrelations : Datum.asList? Relation.decode?
      (Json.arr (s.relations.map Relation.toJson)).toDatumSkipping = some s.relations :=
    Datum.asList?_arr fun r _ => Relation.decode?_toJson r
  have hwarnings : Datum.asList? Warning.decode?
      (Json.arr (s.warnings.map Warning.toJson)).toDatumSkipping = some s.warnings :=
    Datum.asList?_arr fun w _ => Warning.decode?_toJson w
  rw [decode?, toJson, contentFields, List.cons_append, List.cons_append, List.cons_append,
    List.cons_append, List.nil_append, Record.of?_obj]
  · simp [Record.required, Record.withDefault, Record.get?, List.lookup_cons, Datum.asString?,
      hmodels, henums, hrelations, hwarnings]
  · rfl
  · decide

/-! ## Telling contents apart -/

/-- A writer that a decoder inverts is injective. -/
theorem injective_of_decode? {α β : Type} {enc : α → β} (dec : β → Option α)
    (h : ∀ a, dec (enc a) = some a) : Function.Injective enc := by
  intro a b hab
  have hread := h a
  rw [hab, h b, Option.some.injEq] at hread
  exact hread.symm

namespace Json

theorem ofNat_injective : Function.Injective ofNat := fun _ _ h =>
  Decimal.repr_injective (num.inj h)

/-- Optional values are told apart by their JSON value when present values are told apart
and never written as `null`. -/
theorem eq_of_ofOption_eq {α : Type} {f : α → Json} {o o' : Option α}
    (hf : ∀ a ∈ o, ∀ b ∈ o', f a = f b → a = b) (hnull : ∀ a ∈ o, f a ≠ .null)
    (hnull' : ∀ b ∈ o', f b ≠ .null) (h : ofOption f o = ofOption f o') : o = o' := by
  cases o with
  | none =>
    cases o' with
    | none => rfl
    | some b => exact absurd h.symm (hnull' b rfl)
  | some a =>
    cases o' with
    | none => exact absurd h (hnull a rfl)
    | some b => rw [hf a rfl b rfl h]

theorem eq_of_ofOption_str_eq {o o' : Option String} (h : ofOption str o = ofOption str o') :
    o = o' :=
  eq_of_ofOption_eq (fun _ _ _ _ => str.inj) (fun _ _ => nofun) (fun _ _ => nofun) h

end Json

theorem ColumnType.tag_injective : Function.Injective ColumnType.tag :=
  injective_of_decode? (fun s => decode? (.str s)) decode?_tag

theorem Relation.toJson_injective : Function.Injective Relation.toJson :=
  injective_of_decode? (fun j => decode? j.toDatumSkipping) decode?_toJson

theorem Index.toJson_injective : Function.Injective Index.toJson :=
  injective_of_decode? (fun j => decode? j.toDatumSkipping) decode?_toJson

theorem Enumeration.toJson_injective : Function.Injective Enumeration.toJson :=
  injective_of_decode? (fun j => decode? j.toDatumSkipping) decode?_toJson

theorem Warning.toJson_injective : Function.Injective Warning.toJson :=
  injective_of_decode? (fun j => decode? j.toDatumSkipping) decode?_toJson

/-- An integer's text is never the text of a finite double, which holds a point or an
exponent. -/
theorem Json.ofInt_ne_ofBinary64 (i : Int) {x : Binary64} (hx : x.isFinite = true) :
    ofInt i ≠ ofBinary64 x := by
  simp only [ofInt, ofBinary64, hx, if_true, ne_eq, num.injEq]
  exact fun h => Binary64.layoutFinite_ne_of_sign_or_digit
    (Decimal.sign_or_digit_toString_int i) x h.symm

namespace DefaultValue

theorem toJson_ne_null {v : DefaultValue} (hv : v.Finite) : v.toJson ≠ .null := by
  cases v with
  | float x => simp [toJson, Json.ofBinary64, show x.isFinite = true from hv]
  | int _ | bool _ | text _ => simp [toJson, Json.ofInt]

/-- Finite defaults are told apart by their JSON value: the kinds by their JSON kinds, integers
by their digits, doubles by their data layout, and an integer from a double by the point or
exponent that only the layout holds. -/
theorem eq_of_toJson_eq {v w : DefaultValue} (hv : v.Finite) (hw : w.Finite)
    (h : v.toJson = w.toJson) : v = w := by
  cases v with
  | int i =>
    cases w with
    | int j => rw [Decimal.toString_int_injective (Json.num.inj h)]
    | float y => exact absurd h (Json.ofInt_ne_ofBinary64 i hw)
    | bool _ | text _ => simp [toJson, Json.ofInt] at h
  | float x =>
    have hx : x.isFinite = true := hv
    cases w with
    | float y =>
      simp only [toJson, Json.ofBinary64, hx, show y.isFinite = true from hw, if_true,
        Json.num.injEq] at h
      rw [Binary64.layoutFinite_data_injective h]
    | int j => exact absurd h.symm (Json.ofInt_ne_ofBinary64 j hx)
    | bool _ | text _ => simp [toJson, Json.ofBinary64, hx] at h
  | bool b => cases w <;> simp_all [toJson, Json.ofInt, Json.ofBinary64, Finite]
  | text s => cases w <;> simp_all [toJson, Json.ofInt, Json.ofBinary64, Finite]

end DefaultValue

/-- Columns with finite defaults are told apart by their JSON value. -/
theorem Column.eq_of_toJson_eq {c d : Column} (hc : c.FiniteDefault) (hd : d.FiniteDefault)
    (h : c.toJson = d.toJson) : c = d := by
  simp only [toJson, Json.obj.injEq, List.cons.injEq, Prod.mk.injEq, Json.str.injEq,
    Json.bool.injEq, true_and, and_true] at h
  obtain ⟨halias, hname, htype, hnullable, hhas, hdefault, hprimary, hunique, harray, hupdated,
    hgenerated, henum, hlength⟩ := h
  have hdefault' : c.defaultValue = d.defaultValue :=
    Json.eq_of_ofOption_eq (fun v hv w hw => DefaultValue.eq_of_toJson_eq (hc v hv) (hd w hw))
      (fun v hv => DefaultValue.toJson_ne_null (hc v hv))
      (fun w hw => DefaultValue.toJson_ne_null (hd w hw)) hdefault
  have hlength' : c.lengthHint = d.lengthHint :=
    Json.eq_of_ofOption_eq (fun _ _ _ _ h => Json.ofNat_injective h) (fun _ _ => nofun)
      (fun _ _ => nofun) hlength
  have htype' := ColumnType.tag_injective htype
  have henum' := Json.eq_of_ofOption_str_eq henum
  cases c
  cases d
  simp_all

/-- Models with finite defaults are told apart by their JSON value. -/
theorem Model.eq_of_toJson_eq {m m' : Model} (hm : m.FiniteDefaults) (hm' : m'.FiniteDefaults)
    (h : m.toJson = m'.toJson) : m = m' := by
  simp only [toJson, Json.obj.injEq, List.cons.injEq, Prod.mk.injEq, Json.str.injEq,
    Json.arr.injEq, true_and, and_true] at h
  obtain ⟨hname, hbinding, hcolumns, hrelations, hindexes⟩ := h
  have hcolumns' := eq_of_map_eq (fun _ _ hc hd => Column.eq_of_toJson_eq hc hd) hm hm'
    hcolumns
  have hrelations' := List.map_injective_iff.mpr Relation.toJson_injective hrelations
  have hindexes' := List.map_injective_iff.mpr Index.toJson_injective hindexes
  cases m
  cases m'
  simp_all

/-! ## The text of a schema -/

namespace Schema

end Schema

/-- A double that is not finite has no JSON number: a column holding one as its default is
written as the same column without a default. -/
theorem Column.toJson_nonfinite_default (c : Column) {x : Binary64} (hx : x.isFinite = false) :
    { c with defaultValue := some (.float x) }.toJson = { c with defaultValue := none }.toJson := by
  simp [toJson, Json.ofOption, DefaultValue.toJson, Json.ofBinary64, hx]

end SchemaNorm
