import Mathlib.Data.List.Induction
import SchemaNorm.Proofs.Dedup

/-!
Columns keyed by alias. Inserting a column replaces the first column with its alias, in place,
or appends it. Inserting a list of columns one after another keeps each alias once, where it
first occurs, holding the last column written under it: the last write wins.
-/

namespace SchemaNorm

/-- `columns` holds `cs` keyed by alias with the last write winning: each alias once, in the
order the aliases first occur in `cs`, and under each alias the last column of `cs` with it. -/
structure LastWriteWins (cs columns : List Column) : Prop where
  aliases : columns.map (·.aliasName) = (cs.map (·.aliasName)).eraseDups
  lookup : ∀ a, columns.find? (·.aliasName == a) = cs.reverse.find? (·.aliasName == a)

namespace Model

theorem aliases_insertColumnIn (c : Column) (l : List Column) :
    (insertColumnIn c l).1.map (·.aliasName) =
      if c.aliasName ∈ l.map (·.aliasName) then l.map (·.aliasName)
      else l.map (·.aliasName) ++ [c.aliasName] := by
  induction l with
  | nil => simp [insertColumnIn]
  | cons d ds ih =>
    by_cases hd : d.aliasName = c.aliasName
    · simp [insertColumnIn, hd]
    · have hne : c.aliasName ≠ d.aliasName := Ne.symm hd
      simp only [insertColumnIn, if_neg hd, List.map_cons, ih, List.mem_cons, hne, false_or]
      split <;> rfl

/-- Read over write: looking an alias up after an insert finds the inserted column under its own
alias and what was there before under any other. -/
theorem find?_insertColumnIn (c : Column) (l : List Column) (a : String) :
    (insertColumnIn c l).1.find? (·.aliasName == a) =
      if c.aliasName = a then some c else l.find? (·.aliasName == a) := by
  induction l with
  | nil => by_cases h : c.aliasName = a <;> simp [insertColumnIn, h]
  | cons d ds ih =>
    by_cases hd : d.aliasName = c.aliasName
    · by_cases h : c.aliasName = a <;> simp [insertColumnIn, hd, h]
    · simp only [insertColumnIn, if_neg hd, List.find?_cons, ih]
      by_cases h : c.aliasName = a
      · have hda : (d.aliasName == a) = false := by simp [← h, hd]
        simp [hda, h]
      · simp [h]

theorem insertColumn_fst (m : Model) (c : Column) :
    (m.insertColumn c).1 = { m with columns := (insertColumnIn c m.columns).1 } := rfl

/-- Inserting columns one after another changes nothing of a model but its columns. -/
theorem foldl_insertColumn (cs : List Column) (m : Model) :
    cs.foldl (fun m c => (m.insertColumn c).1) m =
      { m with columns := cs.foldl (fun l c => (insertColumnIn c l).1) m.columns } := by
  induction cs generalizing m with
  | nil => rfl
  | cons c cs ih => rw [List.foldl_cons, ih, insertColumn_fst, List.foldl_cons]

/-- The columns inserted one after another into none are keyed by alias, the last write
winning. -/
theorem lastWriteWins_foldl (cs : List Column) :
    LastWriteWins cs (cs.foldl (fun l c => (insertColumnIn c l).1) []) := by
  -- induct from the right: the column written last is the one the last step inserts
  induction cs using List.reverseRecOn with
  | nil => exact ⟨rfl, fun _ => rfl⟩
  | append_singleton cs c ih =>
    rw [List.foldl_append, List.foldl_cons, List.foldl_nil]
    constructor
    · rw [aliases_insertColumnIn, ih.aliases, List.map_append, List.map_cons, List.map_nil,
        List.eraseDups_append]
      -- an alias already kept stays where it is; a new one is appended
      by_cases h : c.aliasName ∈ cs.map (·.aliasName)
      · rw [if_pos (List.mem_eraseDups.mpr h),
          removeAll_eq_nil_of_subset fun x hx => List.mem_singleton.mp hx ▸ h]
        simp
      · rw [if_neg (mt List.mem_eraseDups.mp h), removeAll_cons_of_not_mem h, List.nil_removeAll]
        rfl
    · intro a
      rw [find?_insertColumnIn, ih.lookup, List.reverse_append]
      by_cases h : c.aliasName = a <;> simp [h]

end Model

theorem find?_alias_of_mem {l : List Column} (hl : (l.map (·.aliasName)).Nodup) {c : Column}
    (hc : c ∈ l) : l.find? (·.aliasName == c.aliasName) = some c := by
  induction l with
  | nil => cases hc
  | cons d ds ih =>
    rw [List.map_cons, List.nodup_cons] at hl
    rcases List.mem_cons.mp hc with rfl | hc
    · simp
    · have hne : d.aliasName ≠ c.aliasName := fun he =>
        hl.1 (he ▸ List.mem_map_of_mem hc)
      simp [hne, ih hl.2 hc]

namespace LastWriteWins

variable {cs columns : List Column}

theorem nodup (h : LastWriteWins cs columns) : (columns.map (·.aliasName)).Nodup := by
  rw [h.aliases]
  exact nodup_eraseDups _

/-- Every column kept is the last one written under its alias. -/
theorem last_of_mem (h : LastWriteWins cs columns) {c : Column} (hc : c ∈ columns) :
    cs.reverse.find? (·.aliasName == c.aliasName) = some c := by
  rw [← h.lookup, find?_alias_of_mem h.nodup hc]

theorem mem_of_mem (h : LastWriteWins cs columns) {c : Column} (hc : c ∈ columns) : c ∈ cs :=
  List.mem_reverse.mp (List.mem_of_find?_eq_some (h.last_of_mem hc))

/-- The columns kept are determined by the columns written: for each alias in the order aliases
first occur, the last column written under it. -/
theorem columns_eq (h : LastWriteWins cs columns) :
    columns = (cs.map (·.aliasName)).eraseDups.filterMap
      fun a => cs.reverse.find? (·.aliasName == a) := by
  calc columns = columns.filterMap fun c => cs.reverse.find? (·.aliasName == c.aliasName) := by
        conv_lhs => rw [← List.filterMap_some (l := columns)]
        exact List.filterMap_congr fun c hc => (h.last_of_mem hc).symm
    _ = (columns.map (·.aliasName)).filterMap fun a => cs.reverse.find? (·.aliasName == a) := by
        rw [List.filterMap_map]
        rfl
    _ = _ := by rw [h.aliases]

end LastWriteWins

namespace Model

/-- An insert gives back the column that was under the alias before, if any. -/
theorem insertColumnIn_snd (c : Column) (l : List Column) :
    (insertColumnIn c l).2 = l.find? (·.aliasName == c.aliasName) := by
  induction l with
  | nil => rfl
  | cons d ds ih =>
    by_cases hd : d.aliasName = c.aliasName
    · simp [insertColumnIn, hd]
    · simp only [insertColumnIn, if_neg hd, List.find?_cons, ih, beq_false_of_ne hd]

theorem insertColumn_snd (m : Model) (c : Column) :
    (m.insertColumn c).2 = m.column? c.aliasName :=
  insertColumnIn_snd c m.columns

/-- Inserting columns one after another, each by `insertColumn`. -/
def insertColumns (m : Model) (cs : List Column) : Model :=
  cs.foldl (fun m c => (m.insertColumn c).1) m

theorem insertColumns_columns (m : Model) (cs : List Column) :
    (m.insertColumns cs).columns = cs.foldl (fun l c => (insertColumnIn c l).1) m.columns := by
  rw [insertColumns, foldl_insertColumn]

theorem lastWriteWins_insertColumns (name binding : String) (cs : List Column) :
    LastWriteWins cs ((Model.new name binding).insertColumns cs).columns := by
  rw [insertColumns_columns]
  exact lastWriteWins_foldl cs

end Model

theorem isSome_find?_alias_iff (l : List Column) (a : String) :
    (l.find? (·.aliasName == a)).isSome ↔ a ∈ l.map (·.aliasName) := by
  rw [List.find?_isSome, List.mem_map]
  simp only [beq_iff_eq]

/-- What a model into which the columns `cs` were inserted one after another holds: each alias
once, in the order the aliases first occur in `cs`, and under each alias the last column of `cs`
with it; so looking an alias up finds the last column written under it, and looking a storage
name up finds the first of these columns with that name. -/
structure InsertedByAlias (cs : List Column) (m : Model) : Prop where
  distinct : (m.columns.map (·.aliasName)).Nodup
  aliases : m.columns.map (·.aliasName) = (cs.map (·.aliasName)).eraseDups
  lastWins : ∀ c ∈ m.columns, cs.reverse.find? (·.aliasName == c.aliasName) = some c
  columns : m.columns = (cs.map (·.aliasName)).eraseDups.filterMap
    fun a => cs.reverse.find? (·.aliasName == a)
  byAlias : ∀ a, m.column? a = cs.reverse.find? (·.aliasName == a)
  byName : ∀ n, m.columnByName? n = ((cs.map (·.aliasName)).eraseDups.filterMap
    fun a => cs.reverse.find? (·.aliasName == a)).find? (·.canonicalName == n)

theorem insertedByAlias_new (name binding : String) (cs : List Column) :
    InsertedByAlias cs ((Model.new name binding).insertColumns cs) := by
  have h := Model.lastWriteWins_insertColumns name binding cs
  refine ⟨h.nodup, h.aliases, fun c hc => h.last_of_mem hc, h.columns_eq, h.lookup, fun n => ?_⟩
  rw [Model.columnByName?, h.columns_eq]

/-- Columns inserted one after another into a new model are keyed by alias, the last write
winning: the model holds each alias once, in the order aliases first occur, with the last column
written under it, and its look-ups by alias and by storage name answer from these columns. Each
insert gives back the column the model held under the alias just before, which is the last
column inserted earlier with that alias, and it gives one back exactly when an earlier insert
used the alias. -/
theorem insertColumns_last_write_wins (name binding : String) (cs : List Column) :
    InsertedByAlias cs ((Model.new name binding).insertColumns cs) ∧
      ∀ k : Fin cs.length,
        let before := (Model.new name binding).insertColumns (cs.take k)
        (before.insertColumn cs[k]).2 = before.column? cs[k].aliasName ∧
          (before.insertColumn cs[k]).2 =
            (cs.take k).reverse.find? (·.aliasName == cs[k].aliasName) ∧
          ((before.insertColumn cs[k]).2.isSome ↔
            cs[k].aliasName ∈ (cs.take k).map (·.aliasName)) := by
  refine ⟨insertedByAlias_new name binding cs, fun k => ?_⟩
  intro before
  -- the model before the insert holds the earlier columns keyed by alias
  have hbefore := (insertedByAlias_new name binding (cs.take k)).byAlias cs[k].aliasName
  have hreturn := Model.insertColumn_snd before cs[k]
  refine ⟨hreturn, hreturn.trans hbefore, ?_⟩
  rw [hreturn, hbefore, isSome_find?_alias_iff, List.map_reverse, List.mem_reverse]

end SchemaNorm
