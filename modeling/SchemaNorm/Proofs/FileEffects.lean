import SchemaNorm.Files.Load

/-!
What file operations do to a file tree held as data. A tree grows when every entry it had is
kept as it was and every new entry is a directory. Reading, and the loaders built on reading,
leave the tree as it was; creating a directory with its ancestors only grows it; writing a file
replaces the tree by the written one when the write succeeds and keeps it when the write fails.

Computations over a tree are run in the state monad. `ReadOnly` and `AddsDirectories` say what
every run of a computation does to the tree, and both pass through `bind`, so a loader is shown
read-only by following its steps.
-/

namespace SchemaNorm

namespace FileTree

/-- `u` keeps every entry of `t` as it was; what it has besides are directories. -/
def Grows (t u : FileTree) : Prop :=
  ∀ key, u.entry? key = t.entry? key ∨ (t.entry? key = none ∧ u.entry? key = some .directory)

theorem Grows.refl (t : FileTree) : t.Grows t := fun _ => .inl rfl

theorem Grows.trans {t₁ t₂ t₃ : FileTree} (h₁ : t₁.Grows t₂) (h₂ : t₂.Grows t₃) :
    t₁.Grows t₃ := by
  intro key
  rcases h₂ key with hkept | ⟨hnone, hdir⟩
  · rw [hkept]
    exact h₁ key
  · -- a directory new in `t₃` was missing from `t₂`, hence from `t₁`
    rcases h₁ key with hkept' | ⟨hnone', -⟩
    · rw [← hkept']
      exact .inr ⟨hnone, hdir⟩
    · exact .inr ⟨hnone', hdir⟩

theorem lookup_filter_ne {α : Type} (k key : List String) (l : List (List String × α)) :
    (l.filter (·.1 ≠ key)).lookup k = if k = key then none else l.lookup k := by
  induction l with
  | nil => simp
  | cons x xs ih =>
    obtain ⟨k', v⟩ := x
    by_cases hk' : k' = key
    · -- the entry at `key` is dropped, and a look-up of `key` finds nothing else
      subst hk'
      rw [List.filter_cons_of_neg (by simp), ih]
      by_cases hk : k = k'
      · simp [hk]
      · have hbeq : (k == k') = false := by simpa using hk
        simp [hk, List.lookup_cons, hbeq]
    · rw [List.filter_cons_of_pos (by simpa using hk'), List.lookup_cons, List.lookup_cons, ih]
      by_cases hk : k = key
      · subst hk
        have hbeq : (k == k') = false := by simpa using fun h : k = k' => hk' h.symm
        simp [hbeq]
      · simp [hk]

/-- Putting an entry at a key other than the root's changes that key only. -/
theorem entry?_put {t : FileTree} {key : List String} (hkey : key ≠ []) (e : FileEntry)
    (k : List String) : entry? (t.put key e) k = if k = key then some e else t.entry? k := by
  unfold entry? put
  by_cases hk : k = []
  · subst hk
    simp [Ne.symm hkey]
  · rw [if_neg (by simpa using hk), List.lookup_append, lookup_filter_ne]
    by_cases hkk : k = key
    · subst hkk
      simp
    · have hbeq : (k == key) = false := by simpa using hkk
      simp [hkk, hk, List.lookup_cons, hbeq]

theorem grows_put_directory {t : FileTree} {key : List String} (hkey : key ≠ [])
    (hnone : t.entry? key = none) : t.Grows (t.put key .directory) := by
  intro k
  rw [entry?_put hkey]
  by_cases hk : k = key
  · subst hk
    exact .inr ⟨hnone, by simp⟩
  · exact .inl (by simp [hk])

/-- A directory is created at a key that had no entry, and nowhere else. -/
theorem makeDirectory_eq_ok {t t' : FileTree} {p : String} (h : t.makeDirectory p = .ok t') :
    ∃ key, key ≠ [] ∧ t.entry? key = none ∧ t' = t.put key .directory := by
  unfold makeDirectory at h
  simp only [bind, Except.bind] at h
  -- every branch but the last throws
  split at h
  · cases h
  · cases h
  · cases h
  · rename_i name _ _ _
    split at h
    · cases h
    · rename_i dir _
      split at h
      · split at h
        · cases h
        · rename_i hnone
          cases h
          exact ⟨dir ++ [name], by simp, hnone, rfl⟩
      · cases h
      · cases h

theorem grows_of_makeDirectory {t t' : FileTree} {p : String} (h : t.makeDirectory p = .ok t') :
    t.Grows t' := by
  obtain ⟨key, hkey, hnone, rfl⟩ := makeDirectory_eq_ok h
  exact grows_put_directory hkey hnone

end FileTree

/-- Every run of the computation leaves the tree as it was. -/
def ReadOnly {α : Type} (x : StateM FileTree α) : Prop := ∀ t, (x.run t).2 = t

/-- Every run of the computation only grows the tree. -/
def AddsDirectories {α : Type} (x : StateM FileTree α) : Prop :=
  ∀ t : FileTree, t.Grows (x.run t).2

section Effects

variable {α β : Type}

theorem run_bind (x : StateM FileTree α) (f : α → StateM FileTree β) (t : FileTree) :
    (x >>= f).run t = (f (x.run t).1).run (x.run t).2 := rfl

theorem ReadOnly.pure (a : α) : ReadOnly (pure a : StateM FileTree α) := fun _ => rfl

theorem ReadOnly.bind {x : StateM FileTree α} {f : α → StateM FileTree β} (hx : ReadOnly x)
    (hf : ∀ a, ReadOnly (f a)) : ReadOnly (x >>= f) := by
  intro t
  rw [run_bind, hf, hx]

/-- After a read-only step, the rest runs from the same tree. -/
theorem ReadOnly.run_bind {x : StateM FileTree α} (hx : ReadOnly x) (f : α → StateM FileTree β)
    (t : FileTree) : (x >>= f).run t = (f (x.run t).1).run t := by
  rw [SchemaNorm.run_bind, hx]

theorem ReadOnly.addsDirectories {x : StateM FileTree α} (hx : ReadOnly x) :
    AddsDirectories x := by
  intro t
  rw [hx t]
  exact FileTree.Grows.refl t

theorem AddsDirectories.bind {x : StateM FileTree α} {f : α → StateM FileTree β}
    (hx : AddsDirectories x) (hf : ∀ a, AddsDirectories (f a)) : AddsDirectories (x >>= f) := by
  intro t
  rw [run_bind]
  exact (hx t).trans (hf _ _)

end Effects

/-! ## The file operations on a tree -/

namespace FileSystem

theorem readOnly_kind (p : String) : ReadOnly (kind p : StateM FileTree _) := fun _ => rfl

theorem readOnly_readBytes (p : String) : ReadOnly (readBytes p : StateM FileTree _) :=
  fun _ => rfl

theorem run_makeDirectory (p : String) (t : FileTree) :
    (makeDirectory p : StateM FileTree _).run t =
      match t.makeDirectory p with
      | .ok t' => (Except.ok (), t')
      | .error e => (Except.error e, t) := by
  cases h : t.makeDirectory p <;> simp [makeDirectory, h] <;> rfl

theorem run_writeBytes (p : String) (bytes : List UInt8) (t : FileTree) :
    (writeBytes p bytes : StateM FileTree _).run t =
      match t.write p bytes with
      | .ok t' => (Except.ok (), t')
      | .error e => (Except.error e, t) := by
  cases h : t.write p bytes <;> simp [writeBytes, h] <;> rfl

theorem addsDirectories_makeDirectory (p : String) :
    AddsDirectories (makeDirectory p : StateM FileTree _) := by
  intro t
  rw [run_makeDirectory]
  split
  · rename_i h
    exact FileTree.grows_of_makeDirectory h
  · exact FileTree.Grows.refl t

theorem readOnly_pathExists (p : String) : ReadOnly (pathExists p : StateM FileTree Bool) := by
  unfold pathExists
  refine (readOnly_kind p).bind fun r => ?_
  split <;> exact ReadOnly.pure _

theorem readOnly_isDirectory (p : String) : ReadOnly (isDirectory p : StateM FileTree Bool) := by
  unfold isDirectory
  refine (readOnly_kind p).bind fun r => ?_
  split <;> exact ReadOnly.pure _

theorem readOnly_readText (p : String) : ReadOnly (readText p : StateM FileTree _) := by
  unfold readText
  refine (readOnly_readBytes p).bind fun r => ?_
  split <;> exact ReadOnly.pure _

/-- Creating a directory with its ancestors only grows the tree, wherever it stops. -/
theorem addsDirectories_createDirAllWithin (fuel : Nat) (p : String) :
    AddsDirectories (createDirAllWithin fuel p : StateM FileTree _) := by
  induction fuel generalizing p with
  | zero => exact (ReadOnly.pure _).addsDirectories
  | succ fuel ih =>
    unfold createDirAllWithin
    split
    · exact (ReadOnly.pure _).addsDirectories
    · -- one directory is made, or the ancestors first and then the directory again
      refine (addsDirectories_makeDirectory p).bind fun r => ?_
      split
      · exact (ReadOnly.pure _).addsDirectories
      · split
        · exact (ReadOnly.pure _).addsDirectories
        · refine (ih _).bind fun r => ?_
          split
          · exact (ReadOnly.pure _).addsDirectories
          · refine (addsDirectories_makeDirectory p).bind fun r => ?_
            split
            · exact (ReadOnly.pure _).addsDirectories
            · refine ((readOnly_isDirectory p).bind fun b => ?_).addsDirectories
              split <;> exact ReadOnly.pure _
      · refine ((readOnly_isDirectory p).bind fun b => ?_).addsDirectories
        split <;> exact ReadOnly.pure _

theorem addsDirectories_createDirAll (p : String) :
    AddsDirectories (createDirAll p : StateM FileTree _) :=
  addsDirectories_createDirAllWithin _ p

end FileSystem

/-! ## Reading and writing files -/

theorem readOnly_readExisting (p : String) : ReadOnly (readExisting p : StateM FileTree _) := by
  unfold readExisting
  refine (FileSystem.readOnly_pathExists p).bind fun b => ?_
  split
  · exact ReadOnly.pure _
  · refine (FileSystem.readOnly_readText p).bind fun r => ?_
    split <;> exact ReadOnly.pure _

theorem readOnly_readSnapshot (p : String) : ReadOnly (readSnapshot p : StateM FileTree _) := by
  unfold readSnapshot
  refine (readOnly_readExisting p).bind fun r => ?_
  split
  · exact ReadOnly.pure _
  · split <;> exact ReadOnly.pure _

theorem readOnly_readConfig (p : String) : ReadOnly (readConfig p : StateM FileTree _) := by
  unfold readConfig
  refine (readOnly_readExisting p).bind fun r => ?_
  split
  · exact ReadOnly.pure _
  · split <;> exact ReadOnly.pure _

end SchemaNorm
