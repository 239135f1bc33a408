import Mathlib.Data.List.Basic
import SchemaNorm.Validation

/-!
What validation reports on any schema, normalized or not. The findings come model by model in
schema order. For each model: an error for each enum column that names no enum of the schema,
an error for each field of each index that is no storage column of the model, then for each of
its outbound one-row relations in order either a lone warning (no key at all) or the errors of
its key. The length error is the only constraint error; every other error is a reference error.
A schema is valid exactly when every reference in it resolves (`Schema.Consistent`).
-/

namespace SchemaNorm

namespace Validation

@[simp] theorem errors_append (a b : Validation) : (a ++ b).errors = a.errors ++ b.errors := rfl

@[simp] theorem warnings_append (a b : Validation) :
    (a ++ b).warnings = a.warnings ++ b.warnings := rfl

@[simp] theorem errors_empty : ({} : Validation).errors = [] := rfl

@[simp] theorem warnings_empty : ({} : Validation).warnings = [] := rfl

theorem append_empty (a : Validation) : a ++ {} = a := by
  cases a
  show Validation.mk (_ ++ []) (_ ++ []) = _
  simp only [List.append_nil]

/-- A fold that appends one validation per item gathers their errors, and their warnings, in
item order. -/
theorem foldl_append {α : Type} {step : Validation → α → Validation} {f : α → Validation}
    (hstep : ∀ acc x, step acc x = acc ++ f x) (xs : List α) (init : Validation) :
    xs.foldl step init =
      ⟨init.errors ++ xs.flatMap (f · |>.errors), init.warnings ++ xs.flatMap (f · |>.warnings)⟩ := by
  induction xs generalizing init with
  | nil => cases init; simp
  | cons x xs ih => simp [hstep, ih]

end Validation

section Gather

variable {α β : Type} {p : α → Prop} [DecidablePred p]

/-- Gathering with nothing for the items that pass a test is gathering over those that fail it. -/
theorem flatMap_ite_nil (f : α → List β) (l : List α) :
    l.flatMap (fun a => if p a then [] else f a) = (l.filter fun a => ¬p a).flatMap f := by
  induction l with
  | nil => rfl
  | cons a l ih => by_cases h : p a <;> simp [h, ih]

/-- Gathering one item for each item that passes a test is mapping the items that pass. -/
theorem flatMap_ite_singleton (f : α → β) (l : List α) :
    l.flatMap (fun a => if p a then [f a] else []) = (l.filter fun a => p a).map f := by
  induction l with
  | nil => rfl
  | cons a l ih => by_cases h : p a <;> simp [h, ih]

end Gather

namespace Finding

@[simp] theorem kind_unknownEnum (m : Model) (c : Column) :
    (unknownEnum m c).kind = .reference := rfl

@[simp] theorem kind_missingIndexColumn (m : Model) (i : Index) (f : String) :
    (missingIndexColumn m i f).kind = .reference := rfl

@[simp] theorem kind_keyLengthMismatch (m : Model) (r : OneRelation) :
    (keyLengthMismatch m r).kind = .constraint := rfl

@[simp] theorem kind_unknownModel (m : Model) (r : OneRelation) :
    (unknownModel m r).kind = .reference := rfl

@[simp] theorem kind_missingField (field model : String) (l : Location) :
    (Schema.missingField field model l).kind = .reference := rfl

end Finding

@[simp] theorem Relation.toOne?_one (r : OneRelation) : (Relation.one r).toOne? = some r := rfl

@[simp] theorem Relation.toOne?_many (r : ManyRelation) : (Relation.many r).toOne? = none := rfl

namespace Model

/-- The outbound one-row relations of a model, in order. -/
def outboundOnes (m : Model) : List OneRelation :=
  (m.relationsIn .outbound).filterMap Relation.toOne?

theorem columnByName?_isNone (m : Model) (name : String) :
    (m.columnByName? name).isNone ↔ name ∉ m.columns.map (·.canonicalName) := by
  simp [columnByName?]

/-- Keeping the names that no column of the model has, by look-up or by membership alike. -/
theorem filter_columnByName?_isNone (m : Model) (names : List String) :
    names.filter (fun f => (m.columnByName? f).isNone) =
      names.filter (· ∉ m.columns.map (·.canonicalName)) :=
  List.filter_congr fun f _ => by
    rw [Bool.eq_iff_iff, decide_eq_true_iff]
    exact m.columnByName?_isNone f

end Model

namespace Schema

theorem enum?_isSome (s : Schema) (name : String) :
    (s.enum? name).isSome ↔ some name ∈ s.enums.map (some ·.canonicalName) := by
  simp only [enum?, List.find?_isSome, List.mem_map, Option.some.injEq, beq_iff_eq]

/-- The errors of an outbound one-row relation of a model that has a key: a length error when its
two sides differ in length, an error for each source field that is no storage column of the
model, then an error for each reference field that is no storage column of the first model with
the referenced name, or a single error when there is no such model. -/
def keyErrors (s : Schema) (m : Model) (r : OneRelation) : List Finding :=
  (if r.sourceFields.length = r.referenceFields.length then []
    else [Finding.keyLengthMismatch m r]) ++
  (r.sourceFields.filter (· ∉ m.columns.map (·.canonicalName))).map
    (missingField · m.canonicalName (r.locationIn m)) ++
  match s.model? r.referenceModel with
  | some t => (r.referenceFields.filter (· ∉ t.columns.map (·.canonicalName))).map
      (missingField · t.canonicalName (r.locationIn m))
  | none => [Finding.unknownModel m r]

/-- Every reference of a schema resolves: each enum column names an enum of the schema, each
index field is a storage column of its model, and each outbound one-row relation with a key has
sides of equal length, source fields that are storage columns of its model, and reference fields
that are storage columns of the first model with the referenced name, which exists. -/
structure Consistent (s : Schema) : Prop where
  enums : ∀ m ∈ s.models, ∀ c ∈ m.columns, c.type = .enum →
    ∃ e ∈ s.enums, c.enumName = some e.canonicalName
  indexes : ∀ m ∈ s.models, ∀ i ∈ m.indexes, ∀ f ∈ i.fields, ∃ c ∈ m.columns, c.canonicalName = f
  keys : ∀ m ∈ s.models, ∀ r ∈ m.outboundOnes, ¬(r.sourceFields = [] ∧ r.referenceFields = []) →
    r.sourceFields.length = r.referenceFields.length ∧
    (∀ f ∈ r.sourceFields, ∃ c ∈ m.columns, c.canonicalName = f) ∧
    ∃ t, s.model? r.referenceModel = some t ∧ ∀ f ∈ r.referenceFields, ∃ c ∈ t.columns, c.canonicalName = f

theorem enumColumnErrors_eq (s : Schema) (m : Model) :
    s.enumColumnErrors m = (m.columns.filter fun c =>
      c.type = .enum ∧ c.enumName ∉ s.enums.map (some ·.canonicalName)).map
        (Finding.unknownEnum m) := by
  unfold enumColumnErrors
  congr 1
  apply List.filter_congr
  intro c _
  rw [Bool.eq_iff_iff, Bool.and_eq_true, beq_iff_eq, decide_eq_true_iff]
  apply and_congr_right
  intro _
  -- a column without an enum name names no enum; one with a name, exactly when the look-up fails
  cases c.enumName with
  | none => simp
  | some n => simp [← s.enum?_isSome n]

theorem indexErrors_eq (m : Model) :
    indexErrors m = m.indexes.flatMap fun i =>
      (i.fields.filter (· ∉ m.columns.map (·.canonicalName))).map
        (Finding.missingIndexColumn m i) := by
  simp only [indexErrors, Model.filter_columnByName?_isNone]

theorem relationFindings_keyless {s : Schema} {m : Model} {r : OneRelation}
    (h : r.sourceFields = [] ∧ r.referenceFields = []) :
    s.relationFindings m r = { warnings := [Caution.keyless m r] } := by
  simp [relationFindings, h.1, h.2]

theorem relationFindings_keyed {s : Schema} {m : Model} {r : OneRelation}
    (h : ¬(r.sourceFields = [] ∧ r.referenceFields = [])) :
    s.relationFindings m r = { errors := s.keyErrors m r } := by
  have hkeyed : (r.sourceFields.isEmpty && r.referenceFields.isEmpty) = false := by
    simpa [List.isEmpty_iff] using h
  unfold relationFindings keyErrors
  -- both sides match on the referenced model, each with a matcher of its own
  cases s.model? r.referenceModel <;>
    simp only [hkeyed, Bool.false_eq_true, if_false, bne_iff_ne, ne_eq, ite_not,
      Model.filter_columnByName?_isNone]

theorem relationFindings_errors (s : Schema) (m : Model) (r : OneRelation) :
    (s.relationFindings m r).errors =
      if r.sourceFields = [] ∧ r.referenceFields = [] then [] else s.keyErrors m r := by
  by_cases h : r.sourceFields = [] ∧ r.referenceFields = []
  · rw [relationFindings_keyless h, if_pos h]
  · rw [relationFindings_keyed h, if_neg h]

theorem relationFindings_warnings (s : Schema) (m : Model) (r : OneRelation) :
    (s.relationFindings m r).warnings =
      if r.sourceFields = [] ∧ r.referenceFields = [] then [Caution.keyless m r] else [] := by
  by_cases h : r.sourceFields = [] ∧ r.referenceFields = []
  · rw [relationFindings_keyless h, if_pos h]
  · rw [relationFindings_keyed h, if_neg h]

/-- The findings of a model: its enum and index errors, then what each of its outbound one-row
relations draws, in order. -/
theorem modelFindings_eq (s : Schema) (m : Model) :
    s.modelFindings m =
      ⟨s.enumColumnErrors m ++ indexErrors m ++
          m.outboundOnes.flatMap (s.relationFindings m · |>.errors),
        m.outboundOnes.flatMap (s.relationFindings m · |>.warnings)⟩ := by
  -- the collection relations add nothing, so the fold gathers over the one-row relations only
  have hgather : ∀ {β : Type} (sel : Validation → List β), sel {} = [] →
      (m.relationsIn .outbound).flatMap
          (fun r => sel ((r.toOne?.map (s.relationFindings m)).getD {})) =
        m.outboundOnes.flatMap (fun o => sel (s.relationFindings m o)) := by
    intro β sel hsel
    unfold Model.outboundOnes
    induction m.relationsIn .outbound with
    | nil => rfl
    | cons r rs ih => cases r <;> simp [List.filterMap_cons, hsel, ih]
  unfold modelFindings
  rw [Validation.foldl_append (f := fun r => (r.toOne?.map (s.relationFindings m)).getD {})]
  · rw [hgather Validation.errors rfl, hgather Validation.warnings rfl]
    rfl
  · intro acc r
    cases r with
    | one o => rfl
    | many _ => exact (Validation.append_empty acc).symm

/-- Validation gathers the findings of the models in order. -/
theorem validate_eq (s : Schema) :
    s.validate = ⟨s.models.flatMap (s.modelFindings · |>.errors),
      s.models.flatMap (s.modelFindings · |>.warnings)⟩ := by
  unfold validate
  rw [Validation.foldl_append (f := s.modelFindings) fun _ _ => rfl]
  rfl

theorem keyErrors_eq_nil_iff (s : Schema) (m : Model) (r : OneRelation) :
    s.keyErrors m r = [] ↔ r.sourceFields.length = r.referenceFields.length ∧
      (∀ f ∈ r.sourceFields, ∃ c ∈ m.columns, c.canonicalName = f) ∧
      ∃ t, s.model? r.referenceModel = some t ∧
        ∀ f ∈ r.referenceFields, ∃ c ∈ t.columns, c.canonicalName = f := by
  unfold keyErrors
  cases s.model? r.referenceModel with
  | none => simp
  | some t => simp

/-- The errors of validation, model by model: enum columns, index fields, then the keys of the
outbound one-row relations that have one. -/
theorem validate_errors (s : Schema) :
    s.validate.errors = s.models.flatMap fun m =>
      (m.columns.filter fun c =>
          c.type = .enum ∧ c.enumName ∉ s.enums.map (some ·.canonicalName)).map
        (Finding.unknownEnum m) ++
      m.indexes.flatMap (fun i => (i.fields.filter (· ∉ m.columns.map (·.canonicalName))).map
        (Finding.missingIndexColumn m i)) ++
      (m.outboundOnes.filter fun r => ¬(r.sourceFields = [] ∧ r.referenceFields = [])).flatMap
        (s.keyErrors m) := by
  rw [validate_eq]
  dsimp only
  congr 1
  funext m
  rw [modelFindings_eq, enumColumnErrors_eq, indexErrors_eq]
  simp only [relationFindings_errors, flatMap_ite_nil]

/-- The warnings of validation: one for each outbound one-row relation without any key. -/
theorem validate_warnings (s : Schema) :
    s.validate.warnings = s.models.flatMap fun m =>
      (m.outboundOnes.filter fun r => r.sourceFields = [] ∧ r.referenceFields = []).map
        (Caution.keyless m) := by
  rw [validate_eq]
  dsimp only
  congr 1
  funext m
  rw [modelFindings_eq]
  simp only [relationFindings_warnings, flatMap_ite_singleton]

theorem keyErrors_constraints (s : Schema) (m : Model) (r : OneRelation) :
    (s.keyErrors m r).filter (·.kind = .constraint) =
      if r.sourceFields.length = r.referenceFields.length then []
      else [Finding.keyLengthMismatch m r] := by
  unfold keyErrors
  cases s.model? r.referenceModel <;> by_cases h : r.sourceFields.length = r.referenceFields.length <;>
    simp [h, List.filter_map, Function.comp_def]

/-- The only constraint errors are the length errors of keys. -/
theorem validate_constraints (s : Schema) :
    s.validate.errors.filter (·.kind = .constraint) = s.models.flatMap fun m =>
      (m.outboundOnes.filter fun r => ¬(r.sourceFields = [] ∧ r.referenceFields = []) ∧
        r.sourceFields.length ≠ r.referenceFields.length).map (Finding.keyLengthMismatch m) := by
  -- enum and index errors are reference errors; a key's only constraint error is its length error
  have hreference : ∀ {α : Type} {f : α → Finding}, (∀ a, (f a).kind = .reference) →
      ∀ l : List α, (l.map f).filter (·.kind = .constraint) = [] := by
    intro α f hf l
    simp [List.filter_map, Function.comp_def, hf]
  rw [validate_errors, List.filter_flatMap]
  congr 1
  funext m
  rw [List.filter_append, List.filter_append, hreference (Finding.kind_unknownEnum m),
    List.filter_flatMap, List.flatMap_eq_nil_iff.mpr fun i _ =>
      hreference (Finding.kind_missingIndexColumn m i) _, List.filter_flatMap]
  simp only [keyErrors_constraints, flatMap_ite_nil, ← List.map_eq_flatMap, List.filter_filter,
    List.nil_append]
  exact congrArg _ (List.filter_congr fun r _ => by simp [and_comm])

/-- The errors of one model vanish exactly when its references resolve. -/
theorem modelErrors_eq_nil_iff (s : Schema) (m : Model) :
    (m.columns.filter fun c =>
          c.type = .enum ∧ c.enumName ∉ s.enums.map (some ·.canonicalName)).map
        (Finding.unknownEnum m) ++
      m.indexes.flatMap (fun i => (i.fields.filter (· ∉ m.columns.map (·.canonicalName))).map
        (Finding.missingIndexColumn m i)) ++
      (m.outboundOnes.filter fun r => ¬(r.sourceFields = [] ∧ r.referenceFields = [])).flatMap
        (s.keyErrors m) = [] ↔
    (∀ c ∈ m.columns, c.type = .enum → ∃ e ∈ s.enums, c.enumName = some e.canonicalName) ∧
      (∀ i ∈ m.indexes, ∀ f ∈ i.fields, ∃ c ∈ m.columns, c.canonicalName = f) ∧
      ∀ r ∈ m.outboundOnes, ¬(r.sourceFields = [] ∧ r.referenceFields = []) →
        r.sourceFields.length = r.referenceFields.length ∧
        (∀ f ∈ r.sourceFields, ∃ c ∈ m.columns, c.canonicalName = f) ∧
        ∃ t, s.model? r.referenceModel = some t ∧
          ∀ f ∈ r.referenceFields, ∃ c ∈ t.columns, c.canonicalName = f := by
  simp only [List.append_eq_nil_iff, List.map_eq_nil_iff, List.filter_eq_nil_iff,
    List.flatMap_eq_nil_iff, keyErrors_eq_nil_iff, List.mem_filter, decide_eq_true_eq,
    and_imp, not_and, not_not, List.mem_map]
  simp only [eq_comm (a := some _), and_assoc]

theorem validate_errors_eq_nil_iff (s : Schema) : s.validate.errors = [] ↔ s.Consistent := by
  rw [validate_errors, List.flatMap_eq_nil_iff]
  simp only [modelErrors_eq_nil_iff]
  constructor
  · intro h
    exact ⟨fun m hm => (h m hm).1, fun m hm => (h m hm).2.1, fun m hm => (h m hm).2.2⟩
  · intro h m hm
    exact ⟨h.enums m hm, h.indexes m hm, h.keys m hm⟩

/-- What validation reports on a schema, model by model in schema order. Its errors, for each
model: one for each enum column that names no enum of the schema (or no enum at all), one for each
field of each index that is no storage column of the model, then the errors of the key of each
outbound one-row relation that has one, in order (`keyErrors`). Its warnings: one for each
outbound one-row relation without any key, which draws no error. The only constraint errors are
the length errors of keys. The schema is valid exactly when there is no error, which is exactly
when every reference in it resolves. -/
structure Reported (s : Schema) (v : Validation) : Prop where
  errors : v.errors = s.models.flatMap fun m =>
    (m.columns.filter fun c =>
        c.type = .enum ∧ c.enumName ∉ s.enums.map (some ·.canonicalName)).map
      (Finding.unknownEnum m) ++
    m.indexes.flatMap (fun i => (i.fields.filter (· ∉ m.columns.map (·.canonicalName))).map
      (Finding.missingIndexColumn m i)) ++
    (m.outboundOnes.filter fun r => ¬(r.sourceFields = [] ∧ r.referenceFields = [])).flatMap
      (s.keyErrors m)
  warnings : v.warnings = s.models.flatMap fun m =>
    (m.outboundOnes.filter fun r => r.sourceFields = [] ∧ r.referenceFields = []).map
      (Caution.keyless m)
  constraints : v.errors.filter (·.kind = .constraint) = s.models.flatMap fun m =>
    (m.outboundOnes.filter fun r => ¬(r.sourceFields = [] ∧ r.referenceFields = []) ∧
      r.sourceFields.length ≠ r.referenceFields.length).map (Finding.keyLengthMismatch m)
  valid : v.isValid = true ↔ v.errors = []
  consistent : v.isValid = true ↔ s.Consistent

theorem validate_reported (s : Schema) : Reported s s.validate where
  errors := validate_errors s
  warnings := validate_warnings s
  constraints := validate_constraints s
  valid := List.isEmpty_iff
  consistent := List.isEmpty_iff.trans (validate_errors_eq_nil_iff s)

/-- A relation with a source field but no reference field is not keyless: it draws the length
error, the missing source column, and the unknown referenced model. -/
example : (Schema.validate
    { models := [{ Model.new "Post" "posts" with
        relations := [.one ⟨"author", "author", none, "Post", "User", ["authorId"], [], false,
          .outbound⟩] }]
      enums := [], relations := [], summary := "" }).errors.map (·.kind) =
    [.constraint, .reference, .reference] := by
  decide

end Schema

end SchemaNorm
