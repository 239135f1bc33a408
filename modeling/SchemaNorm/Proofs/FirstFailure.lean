import Mathlib.Data.List.Forall2
import SchemaNorm.Error

/-!
The error a computation in `Except` stops with, and the first-failure law of the traversals the
normalizer is built from: when whether a step fails, and with what, is decided by the element
alone, a traversal fails with the failure of the first failing element and succeeds when no
element fails.
-/

namespace SchemaNorm

variable {ε α β σ : Type}

/-- The error a computation stops with; `none` when it succeeds. -/
def errorOf : Except ε α → Option ε
  | .ok _ => none
  | .error e => some e

@[simp] theorem errorOf_ok (a : α) : errorOf (.ok a : Except ε α) = none := rfl

@[simp] theorem errorOf_error (e : ε) : errorOf (.error e : Except ε α) = some e := rfl

theorem errorOf_eq_some_iff {x : Except ε α} {e : ε} : errorOf x = some e ↔ x = .error e := by
  cases x <;> simp [errorOf]

theorem errorOf_eq_none_iff {x : Except ε α} : errorOf x = none ↔ ∃ a, x = .ok a := by
  cases x <;> simp [errorOf]

/-- A computation followed by one whose failure does not depend on the value passed on fails
with its own error first, else with the second one's. -/
theorem errorOf_bind_of_const {x : Except ε α} {f : α → Except ε β} {o : Option ε}
    (hf : ∀ a, errorOf (f a) = o) : errorOf (x >>= f) = (errorOf x).or o := by
  cases x with
  | error e => rfl
  | ok a => exact hf a

theorem errorOf_bind_pure (x : Except ε α) (f : α → β) :
    errorOf (x >>= fun a => pure (f a)) = errorOf x := by
  rw [errorOf_bind_of_const (o := none) fun _ => rfl, Option.or_none]

/-- A computation followed by another succeeds when both do. -/
theorem bind_eq_ok {x : Except ε α} {f : α → Except ε β} {b : β} :
    x >>= f = .ok b ↔ ∃ a, x = .ok a ∧ f a = .ok b := by
  cases x with
  | error e =>
    constructor
    · intro h
      cases h
    · rintro ⟨a, h, -⟩
      cases h
  | ok a =>
    constructor
    · intro h
      exact ⟨a, rfl, h⟩
    · rintro ⟨a', h, hf⟩
      cases h
      exact hf

theorem findSome?_cons_or (f : α → Option β) (x : α) (xs : List α) :
    (x :: xs).findSome? f = (f x).or (xs.findSome? f) := by
  cases h : f x <;> simp [h]

/-- A left fold stops at the first element whose step fails, when the failure of a step is
decided by the element alone and not by the state reached. -/
theorem errorOf_foldlM {f : σ → α → Except ε σ} {fail : α → Option ε}
    (hf : ∀ s x, errorOf (f s x) = fail x) (xs : List α) (s : σ) :
    errorOf (xs.foldlM f s) = xs.findSome? fail := by
  induction xs generalizing s with
  | nil => rfl
  | cons x xs ih =>
    -- the rest of the fold fails alike from whatever state the head step reaches
    rw [List.foldlM_cons, errorOf_bind_of_const ih, hf, findSome?_cons_or]

theorem errorOf_mapM (f : α → Except ε β) (xs : List α) :
    errorOf (xs.mapM f) = xs.findSome? fun x => errorOf (f x) := by
  induction xs with
  | nil => rfl
  | cons x xs ih =>
    have hrest : ∀ b, errorOf (xs.mapM f >>= fun bs => pure (b :: bs)) = errorOf (xs.mapM f) :=
      fun b => errorOf_bind_pure _ _
    rw [List.mapM_cons, errorOf_bind_of_const hrest, ih, findSome?_cons_or]

/-- A traversal fails with `e` exactly when some element fails with `e` after elements that all
succeed; the elements after it are never looked at. -/
theorem mapM_eq_error_iff {f : α → Except ε β} {xs : List α} {e : ε} :
    xs.mapM f = .error e ↔
      ∃ before x after, xs = before ++ x :: after ∧ (∀ y ∈ before, errorOf (f y) = none) ∧
        f x = .error e := by
  rw [← errorOf_eq_some_iff, errorOf_mapM, List.findSome?_eq_some_iff]
  constructor
  · rintro ⟨before, x, after, hxs, hx, hbefore⟩
    exact ⟨before, x, after, hxs, hbefore, errorOf_eq_some_iff.mp hx⟩
  · rintro ⟨before, x, after, hxs, hbefore, hx⟩
    exact ⟨before, x, after, hxs, errorOf_eq_some_iff.mpr hx, hbefore⟩

/-- A traversal whose every step gives `g` of its element gives the list mapped by `g`. -/
theorem mapM_eq_ok_map {f : α → Except ε β} {g : α → β} {xs : List α}
    (h : ∀ x ∈ xs, f x = .ok (g x)) : xs.mapM f = .ok (xs.map g) := by
  induction xs with
  | nil => rfl
  | cons x xs ih =>
    rw [List.mapM_cons, h x List.mem_cons_self, ih fun y hy => h y (List.mem_cons_of_mem x hy)]
    rfl

theorem errorOf_forM (f : α → Except ε Unit) (xs : List α) :
    errorOf (xs.forM f) = xs.findSome? fun x => errorOf (f x) := by
  induction xs with
  | nil => rfl
  | cons x xs ih =>
    -- `List.forM_cons` is about the class method `forM`, not `List.forM`: unfold by hand
    change errorOf (f x >>= fun _ => xs.forM f) = _
    rw [errorOf_bind_of_const fun _ => ih, findSome?_cons_or]

/-- A successful `mapM` pairs every input with its output. -/
theorem forall₂_of_mapM_ok {f : α → Except ε β} {xs : List α} {ys : List β}
    (h : xs.mapM f = .ok ys) : List.Forall₂ (fun x y => f x = .ok y) xs ys := by
  induction xs generalizing ys with
  | nil =>
    cases h
    exact .nil
  | cons x xs ih =>
    rw [List.mapM_cons] at h
    obtain ⟨y, hx, h⟩ := bind_eq_ok.mp h
    obtain ⟨ys', hxs, h⟩ := bind_eq_ok.mp h
    cases h
    exact .cons hx (ih hxs)

theorem forall₂_exists_left {R : α → β → Prop} {xs : List α} {ys : List β}
    (h : List.Forall₂ R xs ys) {y : β} (hy : y ∈ ys) : ∃ x ∈ xs, R x y := by
  induction h with
  | nil => cases hy
  | @cons x y' xs ys hr _ ih =>
    rcases List.mem_cons.mp hy with rfl | hy
    · exact ⟨x, List.mem_cons_self, hr⟩
    · obtain ⟨x', hx', hr'⟩ := ih hy
      exact ⟨x', List.mem_cons_of_mem _ hx', hr'⟩

theorem forall₂_exists_right {R : α → β → Prop} {xs : List α} {ys : List β}
    (h : List.Forall₂ R xs ys) {x : α} (hx : x ∈ xs) : ∃ y ∈ ys, R x y := by
  induction h with
  | nil => cases hx
  | @cons x' y xs ys hr _ ih =>
    rcases List.mem_cons.mp hx with rfl | hx
    · exact ⟨y, List.mem_cons_self, hr⟩
    · obtain ⟨y', hy', hr'⟩ := ih hx
      exact ⟨y', List.mem_cons_of_mem _ hy', hr'⟩

theorem exists_of_mem_mapM {f : α → Except ε β} {xs : List α} {ys : List β}
    (h : xs.mapM f = .ok ys) {y : β} (hy : y ∈ ys) : ∃ x ∈ xs, f x = .ok y :=
  forall₂_exists_left (forall₂_of_mapM_ok h) hy

/-- What a traversal that succeeded made of one of its elements is among its results. -/
theorem mem_of_mapM_ok {f : α → Except ε β} {xs : List α} {ys : List β}
    (h : xs.mapM f = .ok ys) {x : α} (hx : x ∈ xs) {y : β} (hy : f x = .ok y) : y ∈ ys := by
  obtain ⟨y', hy', hfy⟩ := forall₂_exists_right (forall₂_of_mapM_ok h) hx
  rw [hy] at hfy
  cases hfy
  exact hy'

end SchemaNorm
