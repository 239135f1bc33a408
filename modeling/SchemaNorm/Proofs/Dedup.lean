import Mathlib.Data.List.Nodup
import SchemaNorm.Relations

/-!
Keeping the first occurrence of each element. The accumulator loop `dedupKeepFirst` that the
relation pass ends with is the library's `List.eraseDups`; its result has no repeated element,
and elements that already occurred earlier leave it unchanged wherever they are repeated.
-/

namespace SchemaNorm

variable {α : Type} [DecidableEq α]

theorem removeAll_cons_of_mem {x : α} {xs seen : List α} (h : x ∈ seen) :
    (x :: xs).removeAll seen = xs.removeAll seen := by
  simp [List.removeAll, h]

theorem removeAll_cons_of_not_mem {x : α} {xs seen : List α} (h : x ∉ seen) :
    (x :: xs).removeAll seen = x :: xs.removeAll seen := by
  simp [List.removeAll, h]

theorem removeAll_cons_right (x : α) (xs seen : List α) :
    xs.removeAll (x :: seen) = (xs.removeAll seen).filter fun b => !b == x := by
  simp only [List.removeAll, List.filter_filter]
  apply List.filter_congr
  intro b _
  simp only [List.elem_eq_mem, List.mem_cons, Bool.decide_or, Bool.not_or]
  rfl

/-- The loop is the reversed accumulator followed by the first occurrences of the elements not
yet seen. -/
theorem dedupKeepFirst_eq (seen xs : List α) :
    dedupKeepFirst seen xs = seen.reverse ++ (xs.removeAll seen).eraseDups := by
  -- the accumulator grows along the list, so the statement is for every accumulator
  induction xs generalizing seen with
  | nil => simp [dedupKeepFirst]
  | cons x xs ih =>
    by_cases hx : x ∈ seen
    · rw [dedupKeepFirst, if_pos hx, ih, removeAll_cons_of_mem hx]
    · rw [dedupKeepFirst, if_neg hx, ih, removeAll_cons_of_not_mem hx, List.eraseDups_cons,
        removeAll_cons_right]
      simp

theorem dedupKeepFirst_nil_eq_eraseDups (xs : List α) : dedupKeepFirst [] xs = xs.eraseDups := by
  rw [dedupKeepFirst_eq, List.removeAll_nil, List.reverse_nil, List.nil_append]

theorem nodup_dedupKeepFirst {seen : List α} (hseen : seen.Nodup) (xs : List α) :
    (dedupKeepFirst seen xs).Nodup := by
  induction xs generalizing seen with
  | nil => simpa [dedupKeepFirst] using List.nodup_reverse.mpr hseen
  | cons x xs ih =>
    rw [dedupKeepFirst]
    split
    · exact ih hseen
    · rename_i hx
      exact ih (List.nodup_cons.mpr ⟨hx, hseen⟩)

theorem nodup_eraseDups (xs : List α) : xs.eraseDups.Nodup := by
  rw [← dedupKeepFirst_nil_eq_eraseDups]
  exact nodup_dedupKeepFirst List.nodup_nil xs

theorem removeAll_eq_nil_of_subset {xs ys : List α} (h : ∀ x ∈ xs, x ∈ ys) :
    xs.removeAll ys = [] := by
  simpa [List.removeAll, List.filter_eq_nil_iff] using h

/-- Elements that all occurred before change nothing. -/
theorem eraseDups_append_of_subset {xs ys : List α} (h : ∀ y ∈ ys, y ∈ xs) :
    (xs ++ ys).eraseDups = xs.eraseDups := by
  rw [List.eraseDups_append, removeAll_eq_nil_of_subset h, List.eraseDups_nil, List.append_nil]

/-- Elements that occurred before change nothing, also with more elements after them. -/
theorem eraseDups_append_append_of_subset {xs ys zs : List α} (h : ∀ y ∈ ys, y ∈ xs) :
    (xs ++ ys ++ zs).eraseDups = (xs ++ zs).eraseDups := by
  have hrest : zs.removeAll (xs ++ ys) = zs.removeAll xs := by
    apply List.filter_congr
    intro z _
    have hz : z ∈ xs ++ ys ↔ z ∈ xs := ⟨fun hz => (List.mem_append.mp hz).elim id (h z), fun hz =>
      List.mem_append_left _ hz⟩
    simp [hz]
  rw [List.eraseDups_append, eraseDups_append_of_subset h, hrest, ← List.eraseDups_append]

end SchemaNorm
