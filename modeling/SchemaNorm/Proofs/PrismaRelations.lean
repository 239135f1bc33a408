import SchemaNorm.Proofs.Normalize
import SchemaNorm.Proofs.PrismaOrder
import SchemaNorm.Proofs.Findings

/-!
The relation lines of the Prisma document. A model's relation section has one line for each of
its one-row relations and none for its collection relations. In a normalized schema a one-row
relation is drawn twice, once in each model it joins: as a field line with its key in the block
of the model that declares it, and as a back-reference list in the block of the model it
references, both under the relation's constraint name.

A back-reference takes the source model's name as its field, or, when that name is taken, the
fallback `Source_relation`. The fallback is taken without a look at the names before it, so it
can repeat a column alias or an earlier back-reference. It is fresh when the fallbacks of a
model are clear of its column aliases, of the source models' names and of each other.
-/

namespace SchemaNorm

namespace Text

/-- One text holds another somewhere in it. -/
def Contains (s t : String) : Prop := ∃ a b, s = a ++ t ++ b

theorem Contains.trans {s t u : String} (hst : Contains s t) (htu : Contains t u) :
    Contains s u := by
  obtain ⟨a, b, rfl⟩ := hst
  obtain ⟨c, d, rfl⟩ := htu
  exact ⟨a ++ c, d ++ b, by simp only [String.append_assoc]⟩

theorem contains_join {l : List String} {t : String} (h : t ∈ l) : Contains (String.join l) t := by
  obtain ⟨s, u, rfl⟩ := List.append_of_mem h
  exact ⟨String.join s, String.join u, by
    rw [String.join_append, String.join_cons, String.append_assoc]⟩

theorem contains_intercalate (sep : String) {l : List String} {t : String} (h : t ∈ l) :
    Contains (sep.intercalate l) t := by
  induction l with
  | nil => cases h
  | cons u l ih =>
    cases l with
    | nil =>
      obtain rfl := List.mem_singleton.mp h
      exact ⟨"", "", by simp⟩
    | cons v l =>
      rw [String.intercalate_cons_cons]
      rcases List.mem_cons.mp h with rfl | hmem
      · exact ⟨"", sep ++ sep.intercalate (v :: l), by simp [String.append_assoc]⟩
      · obtain ⟨a, b, hab⟩ := ih hmem
        exact ⟨u ++ sep ++ a, b, by rw [hab]; simp only [String.append_assoc]⟩

end Text

namespace Render

/-- Lines ended by line feeds, one after another. -/
theorem unlines_eq_join (lines : List String) :
    unlines lines = String.join (lines.map (· ++ "\n")) := by
  suffices h : ∀ init, lines.foldl (fun acc l => acc ++ l ++ "\n") init =
      init ++ String.join (lines.map (· ++ "\n")) by
    unfold unlines
    simpa using h ""
  induction lines with
  | nil => simp
  | cons l ls ih =>
    intro init
    rw [List.foldl_cons, ih, List.map_cons, String.join_cons]
    simp only [String.append_assoc]

end Render

namespace Relation

@[simp] theorem direction_withDirection (x : Relation) (d : Direction) :
    (x.withDirection d).direction = d := by
  cases x <;> rfl

@[simp] theorem withDirection_withDirection (x : Relation) (d d' : Direction) :
    (x.withDirection d).withDirection d' = x.withDirection d' := by
  cases x <;> rfl

@[simp] theorem withDirection_one (r : OneRelation) (d : Direction) :
    (Relation.one r).withDirection d = .one { r with direction := d } := rfl

/-- One-row relations seen from a direction are their bodies seen from it. -/
theorem map_withDirection_of_isOne {xs : List Relation} (h : ∀ x ∈ xs, x.isOne) (d : Direction) :
    xs.map (·.withDirection d) =
      ((xs.filterMap toOne?).map fun o => { o with direction := d }).map one := by
  induction xs with
  | nil => rfl
  | cons x xs ih =>
    have htail := ih fun y hy => h y (List.mem_cons_of_mem x hy)
    cases x with
    | one r => simp [htail]
    | many r => simp [isOne] at h

theorem eq_one_of_toOne? {x : Relation} {o : OneRelation} (h : x.toOne? = some o) : x = .one o := by
  cases x with
  | one r => cases h; rfl
  | many r => cases h

theorem filterMap_toOne?_map_one (os : List OneRelation) : (os.map one).filterMap toOne? = os := by
  rw [List.filterMap_map]
  exact List.filterMap_some

end Relation

namespace Model

/-- The inbound one-row relations of a model, in order. -/
def inboundOnes (m : Model) : List OneRelation :=
  (m.relationsIn .inbound).filterMap Relation.toOne?

/-- A model whose relations are inbound one-row relations, then relations seen outbound, has the
first as its inbound one-row relations. -/
theorem inboundOnes_of_eq {m : Model} {os : List OneRelation} {rest : List Relation}
    (h : m.relations = os.map .one ++ rest) (hin : ∀ o ∈ os, o.direction = .inbound)
    (hrest : ∀ x ∈ rest, x.direction = .outbound) : m.inboundOnes = os := by
  have hkept : (os.map Relation.one).filter (·.direction == .inbound) = os.map .one :=
    List.filter_eq_self.mpr fun x hx => by
      obtain ⟨o, ho, rfl⟩ := List.mem_map.mp hx
      simp [Relation.direction, hin o ho]
  have hdropped : rest.filter (·.direction == .inbound) = [] :=
    List.filter_eq_nil_iff.mpr fun x hx => by simp [hrest x hx]
  rw [inboundOnes, relationsIn, h, List.filter_append, hkept, hdropped, List.append_nil,
    Relation.filterMap_toOne?_map_one]

theorem direction_of_mem_inboundOnes {m : Model} {o : OneRelation} (h : o ∈ m.inboundOnes) :
    o.direction = .inbound := by
  obtain ⟨x, hx, hxo⟩ := List.mem_filterMap.mp h
  cases Relation.eq_one_of_toOne? hxo
  simpa [relationsIn, Relation.direction] using (List.mem_filter.mp hx).2

end Model

section Normalized

variable {p : RelationPolicy} {g : Graph} {ir : Schema} {m : Model}

/-- A normalized model holds its inbound one-row relations first, then relations seen outbound. -/
theorem relations_eq_inboundOnes_append (h : g.normalize p = .ok ir) (hm : m ∈ ir.models) :
    ∃ rest, m.relations = m.inboundOnes.map .one ++ rest ∧ ∀ x ∈ rest, x.direction = .outbound := by
  have hout := (normalize_relations_flat h).outbound
  -- the copies seen inbound are of the one-row relations that reference the model
  have hones : ∀ x ∈ ir.relations.filter (fun x => x.isOne && x.referenceModel == m.canonicalName),
      x.isOne := by
    intro x hx
    simp only [List.mem_filter, Bool.and_eq_true] at hx
    exact hx.2.1
  have hrest : ∀ x ∈ ir.relations.filter (·.sourceModel == m.canonicalName),
      x.direction = .outbound := fun x hx => hout x (List.mem_filter.mp hx).1
  have hrel := (normalize_model_relations h).attached m hm
  rw [Relation.map_withDirection_of_isOne hones] at hrel
  have hinbound := Model.inboundOnes_of_eq hrel (fun o ho => by
    obtain ⟨_, -, rfl⟩ := List.mem_map.mp ho
    rfl) hrest
  rw [hinbound]
  exact ⟨_, hrel, hrest⟩

/-- A normalized model holds no relation twice: the relations it declares are distinct, so are
their copies seen inbound, and a copy is never one of the declared relations. -/
theorem relations_nodup_of_normalize (h : g.normalize p = .ok ir) (hm : m ∈ ir.models) :
    m.relations.Nodup := by
  have hout := (normalize_relations_flat h).outbound
  have hdistinct := (normalize_relations_flat h).distinct
  rw [(normalize_model_relations h).attached m hm, List.nodup_append]
  refine ⟨?_, hdistinct.filter _, ?_⟩
  · -- a relation is its inbound copy seen outbound again
    refine (hdistinct.filter _).map_on fun x hx y hy hxy => ?_
    rw [← Relation.withDirection_of_direction (hout x (List.mem_filter.mp hx).1),
      ← Relation.withDirection_of_direction (hout y (List.mem_filter.mp hy).1),
      ← Relation.withDirection_withDirection x .inbound, hxy, Relation.withDirection_withDirection]
  · rintro a ha b hb rfl
    obtain ⟨x, -, rfl⟩ := List.mem_map.mp ha
    have := hout _ (List.mem_filter.mp hb).1
    simp at this

/-- The one-row relations of a normalized model are distinct. -/
theorem ones_nodup_of_normalize (h : g.normalize p = .ok ir) (hm : m ∈ ir.models) :
    (m.relations.filterMap Relation.toOne?).Nodup := by
  exact (relations_nodup_of_normalize h hm).filterMap fun x y o hx hy =>
    (Relation.eq_one_of_toOne? hx).trans (Relation.eq_one_of_toOne? hy).symm

end Normalized

namespace Prisma

section Lines

/-- A line renders a one-row relation: an outbound relation by its field line, an inbound one by
a back-reference line under some field name. -/
def Renders (r : OneRelation) (line : String) : Prop :=
  match r.direction with
  | .outbound => line = outboundLine r
  | .inbound => ∃ field, line = backReferenceLine field r

theorem renders_relationLine (used : List String) (r : OneRelation) :
    Renders r (relationLine used r) := by
  unfold Renders relationLine
  cases r.direction with
  | outbound => rfl
  | inbound => exact ⟨_, rfl⟩

/-- The relation lines render the one-row relations, one line each, in order; collection relations
get none. -/
theorem forall₂_renders_relationLines : ∀ (used : List String) (rs : List Relation),
    List.Forall₂ Renders (rs.filterMap Relation.toOne?) (relationLines used rs)
  | _, [] => .nil
  | used, .many _ :: rs => by
    simpa [relationLines, List.filterMap_cons] using forall₂_renders_relationLines used rs
  | used, .one r :: rs => by
    simpa [relationLines, List.filterMap_cons] using
      List.Forall₂.cons (renders_relationLine used r) (forall₂_renders_relationLines _ rs)

/-- The lines of a model's relation section, each beside the one-row relation it renders. -/
def relationEntries (m : Model) : List (OneRelation × String) :=
  (m.relations.filterMap Relation.toOne?).zip (relationLines (m.columns.map (·.aliasName)) m.relations)

theorem relationEntries_exact (m : Model) :
    (relationEntries m).map (·.1) = m.relations.filterMap Relation.toOne? ∧
      (relationEntries m).map (·.2) = relationLines (m.columns.map (·.aliasName)) m.relations ∧
      ∀ e ∈ relationEntries m, Renders e.1 e.2 := by
  obtain ⟨hlen, hrel⟩ := List.forall₂_iff_zip.mp
    (forall₂_renders_relationLines (m.columns.map (·.aliasName)) m.relations)
  exact ⟨List.map_fst_zip hlen.le, List.map_snd_zip hlen.ge, fun e he => hrel he⟩

/-- Among entries paired by a relation, a key that occurs once has exactly one entry. -/
theorem filter_zip_eq_singleton {α β : Type} [DecidableEq α] {R : α → β → Prop} {xs : List α}
    {ys : List β} (hR : List.Forall₂ R xs ys) (hnodup : xs.Nodup) {x : α} (hx : x ∈ xs) :
    ∃ y, R x y ∧ (xs.zip ys).filter (·.1 = x) = [(x, y)] := by
  induction hR with
  | nil => cases hx
  | @cons a b as bs hab _ ih =>
    obtain ⟨ha, hnodup⟩ := List.nodup_cons.mp hnodup
    rcases List.mem_cons.mp hx with rfl | hmem
    · -- the tail holds no entry of the key
      have hnone : (as.zip bs).filter (·.1 = x) = [] :=
        List.filter_eq_nil_iff.mpr fun e he hkey => by
          have hkey : e.1 = x := of_decide_eq_true hkey
          exact ha (hkey ▸ (List.of_mem_zip he).1)
      exact ⟨b, hab, by simp [hnone]⟩
    · have hne : a ≠ x := fun hax => ha (hax ▸ hmem)
      obtain ⟨y, hxy, hfilter⟩ := ih hnodup hmem
      exact ⟨y, hxy, by simp [hne, hfilter]⟩

/-- A one-row relation that a model holds once has exactly one line in its relation section. -/
theorem relationEntries_filter {m : Model} (hnodup : (m.relations.filterMap Relation.toOne?).Nodup)
    {r : OneRelation} (hr : Relation.one r ∈ m.relations) :
    ∃ line, Renders r line ∧ ((relationEntries m).filter (·.1 = r)).map (·.2) = [line] := by
  obtain ⟨line, hline, hfilter⟩ := filter_zip_eq_singleton
    (forall₂_renders_relationLines (m.columns.map (·.aliasName)) m.relations) hnodup
    (List.mem_filterMap.mpr ⟨_, hr, rfl⟩)
  exact ⟨line, hline, by rw [relationEntries, hfilter]; rfl⟩

/-- The field line of an outbound relation: its alias, the referenced model, `?` when optional,
and the constraint name, with the key when there is one. -/
theorem outboundLine_eq (r : OneRelation) :
    outboundLine r = r.aliasName ++ " " ++ r.referenceModel ++ (if r.isOptional then "?" else "") ++
      " @relation(\"" ++ r.relationName.getD (r.referenceModel ++ "_" ++ r.sourceModel) ++ "\"" ++
      (if r.sourceFields.isEmpty then ""
        else ", fields: [" ++ ", ".intercalate r.sourceFields ++ "], references: [" ++
          ", ".intercalate r.referenceFields ++ "]") ++ ")" := by
  unfold outboundLine OneRelation.constraintName
  -- split the merged literals of the right side into the pieces the line is built from
  have hopen : " @relation(\"" = " @relation(" ++ "\"" := rfl
  have hfields : ", fields: [" = ", " ++ "fields: [" := rfl
  have hreferences : "], references: [" = "]" ++ ", " ++ "references: [" := rfl
  rw [hopen, hfields, hreferences]
  cases r.sourceFields.isEmpty <;>
    simp only [String.append_assoc, String.intercalate_cons_cons, String.intercalate_singleton,
      if_true, if_false, Bool.false_eq_true, String.append_empty]

end Lines

section Blocks

/-- A titled section holds each of its lines, indented, on a line of its own. -/
theorem titledSection_contains (title : String) {lines : List String} {line : String}
    (h : line ∈ lines) :
    ∃ sec, titledSection title lines = some sec ∧ Text.Contains sec ("  " ++ line ++ "\n") := by
  have hne : lines.isEmpty = false := List.isEmpty_eq_false_iff.mpr (List.ne_nil_of_mem h)
  refine ⟨_, by rw [titledSection, if_neg (by simp [hne])], ?_⟩
  rw [Render.unlines_eq_join]
  exact Text.contains_join (List.mem_map.mpr ⟨"  " ++ line, by simp [h], rfl⟩)

/-- A model's block holds each of its relation lines, on a line of its own. -/
theorem modelBlock_contains_relationLine (m : Model) {line : String}
    (h : line ∈ relationLines (m.columns.map (·.aliasName)) m.relations) :
    Text.Contains (modelBlock m) ("  " ++ line ++ "\n") := by
  obtain ⟨sec, hsec, hline⟩ := titledSection_contains "//> Relations" h
  -- the relation section stands among the block's sections
  have hblock : Text.Contains (modelBlock m) sec := by
    unfold modelBlock
    refine Text.Contains.trans ⟨"model " ++ m.canonicalName ++ " \x7b\n", "\x7d", rfl⟩
      (Text.contains_intercalate "\n" ?_)
    rw [hsec]
    simp
  exact hblock.trans hline

/-- The document holds the block of each model. -/
theorem render_contains_modelBlock (prelude : String) {s : Schema} {m : Model} (hm : m ∈ s.models) :
    Text.Contains (render prelude s) (modelBlock m) := by
  have hsorted : m ∈ s.models.mergeSort fun a b => a.canonicalName ≤ b.canonicalName :=
    List.mem_mergeSort.mpr hm
  have hjoin := Text.contains_join (List.mem_map.mpr ⟨m, hsorted, rfl⟩ :
    "\n" ++ modelBlock m ++ "\n" ∈ (s.models.mergeSort fun a b => a.canonicalName ≤ b.canonicalName).map
      fun m => "\n" ++ modelBlock m ++ "\n")
  rw [render_eq]
  exact (Text.Contains.trans ⟨_, "", String.append_empty.symm⟩ hjoin).trans ⟨"\n", "\n", rfl⟩

end Blocks

section Fresh

/-- Every inbound relation's back-reference field is fresh where its line stands: no name taken
before it, a column alias or the field of an earlier line. -/
def BackReferencesFresh : List String → List Relation → Prop
  | _, [] => True
  | used, .many _ :: rs => BackReferencesFresh used rs
  | used, .one r :: rs => (r.direction = .inbound → relationField used r ∉ used) ∧
      BackReferencesFresh (relationField used r :: used) rs

/-- Freshness decided line by line. -/
def decBackReferencesFresh :
    (used : List String) → (rs : List Relation) → Decidable (BackReferencesFresh used rs)
  | _, [] => isTrue trivial
  | used, .many _ :: rs => decBackReferencesFresh used rs
  | used, .one r :: rs =>
    have := decBackReferencesFresh (relationField used r :: used) rs
    inferInstanceAs (Decidable ((r.direction = .inbound → relationField used r ∉ used) ∧ _))

instance (used : List String) (rs : List Relation) : Decidable (BackReferencesFresh used rs) :=
  decBackReferencesFresh used rs

theorem backReferenceField_eq_or (used : List String) (r : OneRelation) :
    backReferenceField used r = r.sourceModel ∨ backReferenceField used r = fallbackField r := by
  unfold backReferenceField
  split
  · exact .inr rfl
  · exact .inl rfl

/-- A back-reference field is fresh when its fallback is: the source model's name is only kept
when it is not taken. -/
theorem backReferenceField_not_mem {used : List String} {r : OneRelation}
    (h : fallbackField r ∉ used) : backReferenceField used r ∉ used := by
  unfold backReferenceField
  by_cases hsource : r.sourceModel ∈ used
  · rw [if_pos hsource]
    exact h
  · rw [if_neg hsource]
    exact hsource

/-- Relations seen outbound take no back-reference field. -/
theorem backReferencesFresh_of_outbound : ∀ {used : List String} {rs : List Relation},
    (∀ x ∈ rs, x.direction = .outbound) → BackReferencesFresh used rs
  | _, [], _ => trivial
  | used, .many _ :: rs, h =>
    show BackReferencesFresh used rs from
      backReferencesFresh_of_outbound fun x hx => h x (List.mem_cons_of_mem _ hx)
  | _, .one r :: rs, h =>
    have hout : r.direction = .outbound := h _ List.mem_cons_self
    ⟨fun hin => absurd (hin.symm.trans hout) (by decide),
      backReferencesFresh_of_outbound fun x hx => h x (List.mem_cons_of_mem _ hx)⟩

/-- Inbound one-row relations, then relations seen outbound: the back-references are fresh when
the fallbacks are distinct, untaken, and no source model's name. -/
theorem backReferencesFresh_inbound_append {os : List OneRelation} {rest : List Relation}
    (hin : ∀ o ∈ os, o.direction = .inbound) (hrest : ∀ x ∈ rest, x.direction = .outbound)
    (hdistinct : (os.map fallbackField).Nodup)
    (hsource : ∀ o ∈ os, ∀ o' ∈ os, fallbackField o ≠ o'.sourceModel) :
    ∀ {used : List String}, (∀ o ∈ os, fallbackField o ∉ used) →
      BackReferencesFresh used (os.map .one ++ rest) := by
  induction os with
  | nil => exact fun _ => backReferencesFresh_of_outbound hrest
  | cons o os ih =>
    intro used hunused
    have hfield : relationField used o = backReferenceField used o := by
      simp [relationField, hin o List.mem_cons_self]
    obtain ⟨hfresh, hdistinct'⟩ := List.nodup_cons.mp hdistinct
    refine ⟨fun _ => hfield ▸ backReferenceField_not_mem (hunused o List.mem_cons_self), ?_⟩
    refine ih (fun o' ho' => hin o' (List.mem_cons_of_mem o ho')) hdistinct'
      (fun a ha b hb => hsource a (List.mem_cons_of_mem o ha) b (List.mem_cons_of_mem o hb)) ?_
    -- a later fallback is neither this line's field nor a name taken before it
    intro o' ho' hmem
    rcases List.mem_cons.mp hmem with heq | hused
    · rw [hfield] at heq
      rcases backReferenceField_eq_or used o with hsrc | hfb
      · exact hsource o' (List.mem_cons_of_mem o ho') o List.mem_cons_self (heq.trans hsrc)
      · exact hfresh (heq.trans hfb ▸ List.mem_map_of_mem ho')
    · exact hunused o' (List.mem_cons_of_mem o ho') hused

end Fresh

/-- The fallback fields of a model's inbound one-row relations are clear: pairwise distinct, no
alias of the model's columns, and no name of those relations' source models. -/
structure FallbacksClear (m : Model) : Prop where
  distinct : (m.inboundOnes.map fallbackField).Nodup
  notColumn : ∀ o ∈ m.inboundOnes, fallbackField o ∉ m.columns.map (·.aliasName)
  notSource : ∀ o ∈ m.inboundOnes, ∀ o' ∈ m.inboundOnes, fallbackField o ≠ o'.sourceModel

instance (m : Model) : Decidable (FallbacksClear m) :=
  decidable_of_iff (_ ∧ _ ∧ _) ⟨fun ⟨a, b, c⟩ => ⟨a, b, c⟩, fun ⟨a, b, c⟩ => ⟨a, b, c⟩⟩

section Normalized

variable {p : RelationPolicy} {g : Graph} {ir : Schema} {m : Model}

/-- In a normalized schema, the back-reference fields of a model whose fallbacks are clear are
fresh: none repeats a column alias or the field of an earlier relation line. -/
theorem backReferencesFresh_of_fallbacksClear (h : g.normalize p = .ok ir) (hm : m ∈ ir.models)
    (hclear : FallbacksClear m) :
    BackReferencesFresh (m.columns.map (·.aliasName)) m.relations := by
  obtain ⟨rest, hrel, hrest⟩ := relations_eq_inboundOnes_append h hm
  rw [hrel]
  exact backReferencesFresh_inbound_append (fun _ => Model.direction_of_mem_inboundOnes) hrest
    hclear.distinct hclear.notSource hclear.notColumn

/-- Users, and posts with an author and an editor, both users, keyed by the posts' foreign key.
Users get two back-references: `Post`, then the fallback `Post_editor`. -/
def blogGraph : Graph where
  entries := [
    .table { binding := "users", name := "User",
             columns := [ColumnDescriptor.new "id" .integer "integer",
               ColumnDescriptor.new "name" .text "text"] },
    .table { binding := "posts", name := "Post",
             columns := [ColumnDescriptor.new "id" .integer "integer",
               ColumnDescriptor.new "authorId" .integer "integer"],
             foreignKeys := [⟨["authorId"], "User", ["id"]⟩] },
    .relations { binding := "postsRelations", table := "Post",
                 relations := [RelationDescriptor.one "author" "" "User",
                   RelationDescriptor.one "editor" "" "User"] }]

theorem blogGraph_backReferences_fresh :
    ∃ ir, blogGraph.normalize .warn = .ok ir ∧ ∃ m ∈ ir.models,
      FallbacksClear m ∧ BackReferencesFresh (m.columns.map (·.aliasName)) m.relations := by
  have h : blogGraph.normalize .warn = .ok _ := rfl
  refine ⟨_, h, _, List.mem_cons_self, ?hclear,
    backReferencesFresh_of_fallbacksClear h List.mem_cons_self ?hclear⟩
  decide

/-- Users with columns aliased `Post` and `Post_author`, and posts whose author is a user. -/
def shadowGraph : Graph where
  entries := [
    .table { binding := "User", name := "User",
             columns := [{ ColumnDescriptor.new "post" .text "text" with aliasName := "Post" },
               { ColumnDescriptor.new "post_author" .text "text" with aliasName := "Post_author" }] },
    .table (TableDeclaration.new "Post"),
    .relations { binding := "PostRelations", table := "Post",
                 relations := [RelationDescriptor.one "author" "" "User"] }]

/-- The author's back-reference falls back to `Post_author`, since a column takes `Post`; but a
column takes `Post_author` too. -/
theorem shadowGraph_backReference_repeats_column :
    ∃ ir, shadowGraph.normalize .warn = .ok ir ∧
      ∃ m ∈ ir.models, ¬BackReferencesFresh (m.columns.map (·.aliasName)) m.relations :=
  ⟨_, rfl, by decide⟩

/-- How a one-row relation of a normalized schema shows in the Prisma document. Each model's block
stands in the document and holds its relation lines, one for each of its one-row relations and
none for collection relations. The block of the declaring model has exactly one line for the
relation: its field line, with the alias, the referenced model, `?` when optional, and the
constraint name (explicit, else `Reference_Source`) with the key when there is one. The block of
the referenced model has exactly one line for the relation's inbound copy: a back-reference list
of the declaring model under the same constraint name. -/
structure RelationShown (prelude : String) (ir : Schema) (r : OneRelation) : Prop where
  blocks : ∀ m ∈ ir.models, Text.Contains (render prelude ir) (modelBlock m) ∧
    ∀ e ∈ relationEntries m, Text.Contains (modelBlock m) ("  " ++ e.2 ++ "\n")
  onlyOnes : ∀ m ∈ ir.models,
    (relationEntries m).map (·.1) = m.relations.filterMap Relation.toOne? ∧
      (relationEntries m).map (·.2) = relationLines (m.columns.map (·.aliasName)) m.relations ∧
      ∀ e ∈ relationEntries m, Renders e.1 e.2
  outbound : ∀ m ∈ ir.models, m.canonicalName = r.sourceModel →
    ((relationEntries m).filter (·.1 = r)).map (·.2) =
      [r.aliasName ++ " " ++ r.referenceModel ++ (if r.isOptional then "?" else "") ++
        " @relation(\"" ++ r.relationName.getD (r.referenceModel ++ "_" ++ r.sourceModel) ++ "\"" ++
        (if r.sourceFields.isEmpty then ""
          else ", fields: [" ++ ", ".intercalate r.sourceFields ++ "], references: [" ++
            ", ".intercalate r.referenceFields ++ "]") ++ ")"]
  inbound : ∀ m ∈ ir.models, m.canonicalName = r.referenceModel → ∃ field,
    ((relationEntries m).filter (·.1 = { r with direction := .inbound })).map (·.2) =
      [field ++ " " ++ r.sourceModel ++ "[] @relation(\"" ++
        r.relationName.getD (r.referenceModel ++ "_" ++ r.sourceModel) ++ "\")"]

theorem render_relationShown (prelude : String) {r : OneRelation} (h : g.normalize p = .ok ir)
    (hr : Relation.one r ∈ ir.relations) : RelationShown prelude ir r := by
  have hattached := normalize_model_relations h
  have hdir : r.direction = .outbound := (normalize_relations_flat h).outbound _ hr
  refine ⟨fun m hm => ⟨render_contains_modelBlock prelude hm, fun e he => ?_⟩,
    fun m _ => relationEntries_exact m, fun m hm hname => ?_, fun m hm hname => ?_⟩
  · have hline : e.2 ∈ relationLines (m.columns.map (·.aliasName)) m.relations := by
      rw [← (relationEntries_exact m).2.1]
      exact List.mem_map_of_mem he
    exact modelBlock_contains_relationLine m hline
  · -- the declaring model holds the relation as it is
    have hmem : Relation.one r ∈ m.relations :=
      (hattached.mem m hm _).mpr ⟨_, hr, .inr ⟨hname.symm, rfl⟩⟩
    obtain ⟨line, hline, hfilter⟩ := relationEntries_filter (ones_nodup_of_normalize h hm) hmem
    rw [hfilter, ← outboundLine_eq]
    simpa [Renders, hdir] using hline
  · -- the referenced model holds its inbound copy
    have hmem : Relation.one { r with direction := .inbound } ∈ m.relations :=
      (hattached.mem m hm _).mpr ⟨_, hr, .inl ⟨rfl, hname.symm, rfl⟩⟩
    obtain ⟨line, hline, hfilter⟩ := relationEntries_filter (ones_nodup_of_normalize h hm) hmem
    obtain ⟨field, rfl⟩ : ∃ field, line = backReferenceLine field { r with direction := .inbound } :=
      by simpa [Renders] using hline
    exact ⟨field, hfilter⟩

theorem blogGraph_author_shown :
    ∃ ir, blogGraph.normalize .warn = .ok ir ∧ ∃ r, Relation.one r ∈ ir.relations ∧
      RelationShown defaultPrelude ir r := by
  have h : blogGraph.normalize .warn = .ok _ := rfl
  exact ⟨_, h, _, List.mem_cons_self, render_relationShown defaultPrelude h List.mem_cons_self⟩

end Normalized

end Prisma

end SchemaNorm
