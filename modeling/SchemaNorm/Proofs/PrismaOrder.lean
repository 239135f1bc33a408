import Mathlib.Data.List.Sort
import SchemaNorm.Render.Prisma
import SchemaNorm.Proofs.Utf8Order

/-!
The order of the Prisma document. The document is the prelude, the enum blocks and the model
blocks, each block list sorted by name with ties kept in schema order. A stable sort is
determined by what it keeps: the entries with each name in their order. So the document is the
same for any two schemas whose models, and whose enums, list the entries of each name in the
same order, whatever the order between names; with distinct names, for any reordering at all.
-/

namespace SchemaNorm

section StableSort

variable {α : Type} (key : α → String)

theorem key_le_trans (a b c : α) :
    decide (key a ≤ key b) → decide (key b ≤ key c) → decide (key a ≤ key c) := by
  simp only [decide_eq_true_eq]
  exact String.le_trans

theorem key_le_total (a b : α) : (decide (key a ≤ key b) || decide (key b ≤ key a)) := by
  simpa using String.le_total (key a) (key b)

theorem pairwise_mergeSort_key (l : List α) :
    (l.mergeSort fun a b => key a ≤ key b).Pairwise fun a b => key a ≤ key b :=
  (List.pairwise_mergeSort (key_le_trans key) (key_le_total key) l).imp of_decide_eq_true

/-- Merge sort by a key keeps the entries with each key in their order. -/
theorem filter_mergeSort_key (l : List α) (k : String) :
    (l.mergeSort fun a b => key a ≤ key b).filter (key · = k) = l.filter (key · = k) := by
  -- the entries with key `k` are sorted among themselves, so the sort keeps them as a sublist
  have hsorted : (l.filter (key · = k)).Pairwise fun a b => decide (key a ≤ key b) := by
    refine List.Pairwise.imp_of_mem (R := fun _ _ => True) ?_
      (List.pairwise_of_forall fun _ _ => trivial)
    intro a b ha hb _
    simp only [List.mem_filter, decide_eq_true_eq] at ha hb
    simp [ha.2, hb.2]
  have hsub := (List.sublist_mergeSort (key_le_trans key) (key_le_total key) hsorted
    List.filter_sublist).filter (key · = k)
  rw [List.filter_filter] at hsub
  simp only [Bool.and_self] at hsub
  -- and as many of them as there are
  have hlen := ((List.mergeSort_perm l fun a b => key a ≤ key b).filter (key · = k)).length_eq
  exact (hsub.eq_of_length hlen.symm).symm

theorem mem_of_filter_key_eq {l₁ l₂ : List α}
    (h : ∀ k, l₁.filter (key · = k) = l₂.filter (key · = k)) {x : α} (hx : x ∈ l₂) : x ∈ l₁ := by
  have hkept : x ∈ l₂.filter (key · = key x) := List.mem_filter.mpr ⟨hx, by simp⟩
  rw [← h] at hkept
  exact List.mem_of_mem_filter hkept

/-- Two lists sorted by a key that list the entries of each key in the same order are equal. -/
theorem eq_of_pairwise_of_filter_key_eq {l₁ l₂ : List α}
    (h₁ : l₁.Pairwise fun a b => key a ≤ key b) (h₂ : l₂.Pairwise fun a b => key a ≤ key b)
    (h : ∀ k, l₁.filter (key · = k) = l₂.filter (key · = k)) : l₁ = l₂ := by
  induction l₁ generalizing l₂ with
  | nil =>
    cases l₂ with
    | nil => rfl
    | cons b t₂ => exact absurd (mem_of_filter_key_eq key h List.mem_cons_self) List.not_mem_nil
  | cons a t₁ ih =>
    cases l₂ with
    | nil =>
      exact absurd (mem_of_filter_key_eq key (fun k => (h k).symm) List.mem_cons_self)
        List.not_mem_nil
    | cons b t₂ =>
      -- each head has the least key of its list, and lies in the other list
      have hab : key a ≤ key b := by
        rcases List.mem_cons.mp (mem_of_filter_key_eq key h List.mem_cons_self) with hb | hb
        · subst hb
          exact String.le_refl _
        · exact List.rel_of_pairwise_cons h₁ hb
      have hba : key b ≤ key a := by
        rcases List.mem_cons.mp (mem_of_filter_key_eq key (fun k => (h k).symm)
          List.mem_cons_self) with ha | ha
        · subst ha
          exact String.le_refl _
        · exact List.rel_of_pairwise_cons h₂ ha
      have hkey : key a = key b := String.le_antisymm hab hba
      -- so the heads open the same key's entries, and are equal
      have hhead := h (key a)
      simp only [List.filter_cons, decide_true, if_true, hkey] at hhead
      obtain ⟨rfl, -⟩ := List.cons.inj hhead
      congr 1
      refine ih (List.Pairwise.of_cons h₁) (List.Pairwise.of_cons h₂) fun k => ?_
      have hk := h k
      by_cases hak : key a = k <;> simpa [List.filter_cons, hak] using hk

/-- Merge sort by a key gives one list for any two lists that list the entries of each key in
the same order. -/
theorem mergeSort_key_eq {l₁ l₂ : List α}
    (h : ∀ k, l₁.filter (key · = k) = l₂.filter (key · = k)) :
    l₁.mergeSort (fun a b => key a ≤ key b) = l₂.mergeSort (fun a b => key a ≤ key b) :=
  eq_of_pairwise_of_filter_key_eq key (pairwise_mergeSort_key key l₁) (pairwise_mergeSort_key key l₂)
    fun k => by rw [filter_mergeSort_key, filter_mergeSort_key, h]

/-- With distinct keys, a reordered list lists the entries of each key (at most one) alike. -/
theorem filter_key_eq_of_perm {l₁ l₂ : List α} (hp : l₁.Perm l₂) (hd : (l₂.map key).Nodup)
    (k : String) : l₁.filter (key · = k) = l₂.filter (key · = k) := by
  have hperm := hp.filter (key · = k)
  have hkeys : ((l₂.filter (key · = k)).map key).Nodup := hd.sublist (List.filter_sublist.map key)
  cases hl : l₂.filter (key · = k) with
  | nil =>
    rw [hl] at hperm
    exact hperm.eq_nil
  | cons x t =>
    cases t with
    | nil =>
      rw [hl] at hperm
      exact List.perm_singleton.mp hperm
    | cons y t =>
      -- two entries with the key `k` would repeat a key
      have hx : key x = k := by
        have := List.mem_filter.mp (hl ▸ List.mem_cons_self : x ∈ l₂.filter (key · = k))
        simpa using this.2
      have hy : key y = k := by
        have := List.mem_filter.mp
          (hl ▸ List.mem_cons_of_mem x List.mem_cons_self : y ∈ l₂.filter (key · = k))
        simpa using this.2
      rw [hl] at hkeys
      simp [hx, hy] at hkeys

end StableSort

namespace Prisma

/-- Blocks laid out one after another, each between line feeds. -/
theorem foldl_blocks {β : Type} (block : β → String) (xs : List β) (init : String) :
    xs.foldl (fun acc x => acc ++ "\n" ++ block x ++ "\n") init =
      init ++ String.join (xs.map fun x => "\n" ++ block x ++ "\n") := by
  induction xs generalizing init with
  | nil => simp [String.join_nil]
  | cons x xs ih => rw [List.foldl_cons, ih, List.map_cons, String.join_cons]; simp [String.append_assoc]

/-- The document: the prelude without its trailing white space, then the enum blocks and the
model blocks, each sorted by name. -/
theorem render_eq (prelude : String) (s : Schema) :
    render prelude s = Text.trimEnd prelude ++ "\n\n// ENUMS:\n" ++
      String.join ((s.enums.mergeSort fun a b => a.canonicalName ≤ b.canonicalName).map
        fun e => "\n" ++ enumBlock e ++ "\n") ++ "\n// MODELS:\n" ++
      String.join ((s.models.mergeSort fun a b => a.canonicalName ≤ b.canonicalName).map
        fun m => "\n" ++ modelBlock m ++ "\n") := by
  unfold render
  dsimp only
  rw [foldl_blocks, foldl_blocks]
  simp only [String.empty_append]

/-- The Prisma document of a schema depends on the prelude, the models and the enums only. It is
the prelude without its trailing white space, then the enum blocks, then the model blocks, each
list in non-decreasing order of the UTF-8 bytes of the names and with the entries of each name
in schema order. So reordering the models or the enums while the entries of each name keep their
order leaves the document as it is, and with distinct names any reordering does. -/
structure SortedByName (prelude : String) (s : Schema) : Prop where
  onlyModelsEnums : ∀ s' : Schema, s'.models = s.models → s'.enums = s.enums →
    render prelude s' = render prelude s
  layout : ∃ (es : List Enumeration) (ms : List Model),
    (∀ n, es.filter (·.canonicalName = n) = s.enums.filter (·.canonicalName = n)) ∧
    es.Pairwise (fun a b => Text.utf8Bytes a.canonicalName ≤ Text.utf8Bytes b.canonicalName) ∧
    (∀ n, ms.filter (·.canonicalName = n) = s.models.filter (·.canonicalName = n)) ∧
    ms.Pairwise (fun a b => Text.utf8Bytes a.canonicalName ≤ Text.utf8Bytes b.canonicalName) ∧
    render prelude s = Text.trimEnd prelude ++ "\n\n// ENUMS:\n" ++
      String.join (es.map fun e => "\n" ++ enumBlock e ++ "\n") ++ "\n// MODELS:\n" ++
      String.join (ms.map fun m => "\n" ++ modelBlock m ++ "\n")
  stable : ∀ s' : Schema,
    (∀ n, s'.enums.filter (·.canonicalName = n) = s.enums.filter (·.canonicalName = n)) →
    (∀ n, s'.models.filter (·.canonicalName = n) = s.models.filter (·.canonicalName = n)) →
    render prelude s' = render prelude s
  distinct : ∀ s' : Schema, s'.enums.Perm s.enums → s'.models.Perm s.models →
    (s.enums.map (·.canonicalName)).Nodup → (s.models.map (·.canonicalName)).Nodup →
    render prelude s' = render prelude s

theorem render_sortedByName (prelude : String) (s : Schema) : SortedByName prelude s := by
  have hstable : ∀ s' : Schema,
      (∀ n, s'.enums.filter (·.canonicalName = n) = s.enums.filter (·.canonicalName = n)) →
      (∀ n, s'.models.filter (·.canonicalName = n) = s.models.filter (·.canonicalName = n)) →
      render prelude s' = render prelude s := by
    intro s' henums hmodels
    rw [render_eq, render_eq, mergeSort_key_eq (fun e : Enumeration => e.canonicalName) henums,
      mergeSort_key_eq (fun m : Model => m.canonicalName) hmodels]
  -- byte order is the order the sort compares names in
  have hbytes : ∀ {β : Type} (key : β → String) (l : List β),
      (l.mergeSort fun a b => key a ≤ key b).Pairwise
        fun a b => Text.utf8Bytes (key a) ≤ Text.utf8Bytes (key b) := fun key l =>
    (pairwise_mergeSort_key key l).imp (Text.le_iff_utf8Bytes_le _ _).mp
  refine ⟨fun s' hmodels henums => ?_, ?_, hstable, ?_⟩
  · rw [render_eq, render_eq, hmodels, henums]
  · exact ⟨_, _, filter_mergeSort_key (fun e : Enumeration => e.canonicalName) s.enums,
      hbytes _ _, filter_mergeSort_key (fun m : Model => m.canonicalName) s.models, hbytes _ _,
      render_eq prelude s⟩
  · intro s' henums hmodels hdenums hdmodels
    exact hstable s' (filter_key_eq_of_perm (fun e : Enumeration => e.canonicalName) henums hdenums)
      (filter_key_eq_of_perm (fun m : Model => m.canonicalName) hmodels hdmodels)

end Prisma

end SchemaNorm
