import Mathlib
import SchemaNorm.Binary64.Shortest
import SchemaNorm.Proofs.Rounding

/-!
The shortest decimal of a double, against exact rational values. Every pattern `m · 2 ^ e`
with `m ≠ 0` owns the interval between the midpoints to its two neighbours, the midpoints
belonging to it when `m` is even. The search over grids of one, two, … significant digits
always finds a grid point in that interval by the seventeenth grid, because that grid is finer
than the interval; so the shortest decimal lies in the interval. Taken in increasing order, the
patterns of one sign have intervals that follow each other without overlapping, and a shared
midpoint belongs to only one of them. So no two patterns of one sign share a shortest decimal.

Main statements: `Binary64.between_shortest` and `Binary64.eq_of_shortest_value_eq`.
-/

namespace SchemaNorm

namespace Decimal

/-- The value of a decimal. -/
def value (d : Decimal) : ℚ := d.digits * 10 ^ d.exponent

/-- A power with an integer exponent as the quotient of two natural powers. -/
theorem zpow_eq_div (b : ℚ) (p : ℤ) : b ^ p = b ^ p.toNat / b ^ (-p).toNat := by
  obtain ⟨n, rfl | rfl⟩ := Int.eq_nat_or_neg p
  · simp
  · simp [zpow_neg]

/-- Comparing two naturals that are two rationals scaled by one positive factor compares the
rationals. -/
theorem compare_eq_of_scaled {L R : ℕ} {x y c : ℚ} (hc : 0 < c) (hL : (L : ℚ) = x * c)
    (hR : (R : ℚ) = y * c) : compare L R = compare x y := by
  rcases lt_trichotomy x y with h | rfl | h
  · rw [compare_lt_iff_lt.mpr h, compare_lt_iff_lt]
    exact_mod_cast (hL ▸ hR ▸ mul_lt_mul_of_pos_right h hc)
  · rw [compare_eq_iff_eq.mpr rfl, compare_eq_iff_eq]
    exact_mod_cast hL.trans hR.symm
  · rw [compare_gt_iff_gt.mpr h, compare_gt_iff_gt]
    exact_mod_cast (hL ▸ hR ▸ mul_lt_mul_of_pos_right h hc)

/-- `compareScaled` compares `a · 10 ^ p` with `b · 2 ^ q`. -/
theorem compareScaled_eq (a : Nat) (p : Int) (b : Nat) (q : Int) :
    compareScaled a p b q = compare ((a : ℚ) * 10 ^ p) ((b : ℚ) * 2 ^ q) := by
  -- both naturals are the rationals times `10 ^ (-p).toNat * 2 ^ (-q).toNat`
  have h10 : (10 : ℚ) ^ p * 10 ^ (-p).toNat = 10 ^ p.toNat := by
    rw [zpow_eq_div 10 p]
    field_simp
  have h2 : (2 : ℚ) ^ q * 2 ^ (-q).toNat = 2 ^ q.toNat := by
    rw [zpow_eq_div 2 q]
    field_simp
  unfold compareScaled
  simp only [Nat.pow_eq]
  refine compare_eq_of_scaled (c := 10 ^ (-p).toNat * 2 ^ (-q).toNat) (by positivity) ?_ ?_
  · push_cast
    rw [← h10]
    ring
  · push_cast
    rw [← h2]
    ring

theorem compareScaled_eq_gt {a : Nat} {p : Int} {b : Nat} {q : Int} :
    compareScaled a p b q = .gt ↔ (b : ℚ) * 2 ^ q < a * 10 ^ p := by
  rw [compareScaled_eq, compare_gt_iff_gt]

theorem compareScaled_eq_lt {a : Nat} {p : Int} {b : Nat} {q : Int} :
    compareScaled a p b q = .lt ↔ (a : ℚ) * 10 ^ p < b * 2 ^ q := by
  rw [compareScaled_eq, compare_lt_iff_lt]

theorem compareScaled_eq_eq {a : Nat} {p : Int} {b : Nat} {q : Int} :
    compareScaled a p b q = .eq ↔ (a : ℚ) * 10 ^ p = b * 2 ^ q := by
  rw [compareScaled_eq, compare_eq_iff_eq]

/-- Trimming trailing zeros keeps the value. -/
theorem value_trim (digits : Nat) (exponent : Int) (fuel : Nat) :
    (trim digits exponent fuel).value = digits * 10 ^ exponent := by
  induction fuel generalizing digits exponent with
  | zero => rfl
  | succ fuel ih =>
    rw [trim]
    split
    · next h =>
      -- a last digit `0` moves into the exponent
      obtain ⟨q, rfl⟩ : 10 ∣ digits := Nat.dvd_of_mod_eq_zero h.2
      rw [ih, zpow_add_one₀ (by norm_num), Nat.mul_div_cancel_left q (by norm_num)]
      push_cast
      ring
    · rfl

theorem value_normalize (digits : Nat) (exponent : Int) :
    (normalize digits exponent).value = digits * 10 ^ exponent :=
  value_trim digits exponent _

theorem lt_ten_pow_digitCount (n : Nat) : n < 10 ^ digitCount n :=
  (Nat.length_repr_le_iff Nat.length_repr_pos).mp le_rfl

theorem ten_pow_digitCount_le {n : Nat} (hn : 0 < n) : 10 ^ (digitCount n - 1) ≤ n := by
  by_cases h : digitCount n = 1
  · rw [h]
    exact hn
  · have hpos : 0 < digitCount n - 1 := by
      have := @Nat.length_repr_pos n
      simp only [digitCount] at h ⊢
      omega
    have hlong : ¬ digitCount n ≤ digitCount n - 1 := by omega
    exact Nat.not_lt.mp fun hlt => hlong ((Nat.length_repr_le_iff hpos).mpr hlt)

/-- The exponent `floorLog10` gives is never above the number: `10 ^ t ≤ m · 2 ^ e`. -/
theorem ten_zpow_floorLog10_le {m : Nat} (hm : 0 < m) (e : Int) :
    (10 : ℚ) ^ floorLog10 m e ≤ m * 2 ^ e := by
  unfold floorLog10
  dsimp only
  split
  · next hle =>
    simpa [compareScaled_eq_gt] using hle
  · -- the digit counts overestimate by at most one: `10 ^ (k - 1) < num / den`
    set num := m * Nat.pow 2 e.toNat
    set den := Nat.pow 2 (-e).toNat
    have hnum : 0 < num := Nat.mul_pos hm (Nat.pow_pos (by norm_num))
    have hden : 0 < den := Nat.pow_pos (by norm_num)
    have hvalue : (m : ℚ) * 2 ^ e = num / den := by
      simp only [num, den, Nat.pow_eq]
      push_cast
      rw [zpow_eq_div 2 e]
      ring
    have hlow : ((10 ^ (digitCount num - 1) : ℕ) : ℚ) ≤ num :=
      by exact_mod_cast ten_pow_digitCount_le hnum
    have hhigh : (den : ℚ) ≤ ((10 ^ digitCount den : ℕ) : ℚ) :=
      by exact_mod_cast (lt_ten_pow_digitCount den).le
    have hcount : 1 ≤ digitCount num := Nat.length_repr_pos
    have hexp : ((digitCount num : ℤ) - digitCount den - 1) =
        ((digitCount num - 1 : ℕ) : ℤ) - (digitCount den : ℕ) := by
      omega
    rw [hvalue, hexp, zpow_sub₀ (by norm_num), zpow_natCast, zpow_natCast]
    push_cast at hlow hhigh
    exact div_le_div₀ (by positivity) hlow (by exact_mod_cast hden) hhigh

end Decimal

namespace Binary64

open Decimal

/-! ## Rounding intervals -/

/-- `v` lies between `lo` and `hi`, each end included when `closed`. -/
def Between (lo hi : ℚ) (closed : Bool) (v : ℚ) : Prop :=
  (lo < v ∨ closed ∧ v = lo) ∧ (v < hi ∨ closed ∧ v = hi)

theorem Between.lo_le {lo hi v : ℚ} {closed : Bool} (h : Between lo hi closed v) : lo ≤ v := by
  rcases h.1 with h | ⟨-, rfl⟩
  · exact h.le
  · exact le_rfl

theorem Between.le_hi {lo hi v : ℚ} {closed : Bool} (h : Between lo hi closed v) : v ≤ hi := by
  rcases h.2 with h | ⟨-, rfl⟩
  · exact h.le
  · exact le_rfl

/-- The lower end of the rounding interval of `m · 2 ^ e`: `lowGap` quarters of a unit below. -/
def lowerEnd (m : Nat) (e : Int) (lowGap : Nat) : ℚ := ((4 * m - lowGap : ℕ) : ℚ) * 2 ^ (e - 2)

/-- The upper end of the rounding interval of `m · 2 ^ e`: half a unit above. -/
def upperEnd (m : Nat) (e : Int) : ℚ := ((4 * m + 2 : ℕ) : ℚ) * 2 ^ (e - 2)

theorem inRoundingInterval_iff {m : Nat} {e : Int} {lowGap : Nat} {closed : Bool} {c : Nat}
    {k : Int} : inRoundingInterval m e lowGap closed c k = true ↔
      Between (lowerEnd m e lowGap) (upperEnd m e) closed (c * 10 ^ k) := by
  unfold inRoundingInterval Between lowerEnd upperEnd
  simp only [Bool.and_eq_true, Bool.or_eq_true, beq_iff_eq, compareScaled_eq_gt,
    compareScaled_eq_lt, compareScaled_eq_eq]

/-! ## The search -/

/-- The exponent of the grid of `n` significant digits below a first digit at `10 ^ t`. -/
def gridExponent (t : Int) (n : Nat) : Int := t - n + 1

/-- The point of that grid at or below `m · 2 ^ e`. -/
def gridFloor (m : Nat) (e t : Int) (n : Nat) : Nat :=
  m * Nat.pow 2 e.toNat * Nat.pow 10 (-gridExponent t n).toNat /
    (Nat.pow 2 (-e).toNat * Nat.pow 10 (gridExponent t n).toNat)

/-- The grid of `n` digits has a point in the rounding interval: the one at or below the
number, or the next. -/
def GridHit (m : Nat) (e : Int) (lowGap : Nat) (closed : Bool) (t : Int) (n : Nat) : Prop :=
  inRoundingInterval m e lowGap closed (gridFloor m e t n) (gridExponent t n) = true ∨
    inRoundingInterval m e lowGap closed (gridFloor m e t n + 1) (gridExponent t n) = true

section Search

variable {m : Nat} {e : Int} {lowGap : Nat} {closed : Bool} {t : Int}

/-- The search returns a point of its interval once some grid it tries has one. -/
theorem between_shortestFrom {N : Nat} (hN : GridHit m e lowGap closed t N) :
    ∀ fuel n, n ≤ N → N < n + fuel →
      Between (lowerEnd m e lowGap) (upperEnd m e) closed
        (shortestFrom m e lowGap closed t n fuel).value := by
  intro fuel
  induction fuel with
  | zero =>
    intro n hn hlt
    omega
  | succ fuel ih =>
    intro n hn hlt
    -- a candidate the search accepts is a point of the interval
    have haccept : ∀ c, inRoundingInterval m e lowGap closed c (gridExponent t n) = true →
        Between (lowerEnd m e lowGap) (upperEnd m e) closed
          (normalize c (gridExponent t n)).value := by
      intro c h
      rw [value_normalize]
      exact inRoundingInterval_iff.mp h
    rw [shortestFrom]
    split
    · next hboth =>
      rw [Bool.and_eq_true] at hboth
      split
      · exact haccept _ hboth.1
      · exact haccept _ hboth.2
      · split
        · exact haccept _ hboth.1
        · exact haccept _ hboth.2
    · split
      · next hl => exact haccept _ hl
      · split
        · next hh => exact haccept _ hh
        · next hl hh =>
          -- neither candidate: the grid that has one comes later
          have hne : n ≠ N := by
            rintro rfl
            rcases hN with h | h
            · exact hl h
            · exact hh h
          exact ih (n + 1) (by omega) (by omega)

/-- The grid point at or below the number, and the next one, enclose it. -/
theorem gridFloor_le (m : Nat) (e t : Int) (n : Nat) :
    (gridFloor m e t n : ℚ) * 10 ^ gridExponent t n ≤ m * 2 ^ e ∧
      (m : ℚ) * 2 ^ e < (gridFloor m e t n + 1) * 10 ^ gridExponent t n := by
  set k := gridExponent t n
  set num := m * Nat.pow 2 e.toNat * Nat.pow 10 (-k).toNat
  set den := Nat.pow 2 (-e).toNat * Nat.pow 10 k.toNat
  have hden : 0 < den := Nat.mul_pos (Nat.pow_pos (by norm_num)) (Nat.pow_pos (by norm_num))
  have hk : (0 : ℚ) < 10 ^ k := zpow_pos (by norm_num) k
  -- the quotient of the two naturals is the number over `10 ^ k`
  have hquot : (num : ℚ) = m * 2 ^ e / 10 ^ k * den := by
    simp only [num, den, Nat.pow_eq]
    push_cast
    rw [zpow_eq_div 2 e, zpow_eq_div 10 k]
    field_simp
  have hc : gridFloor m e t n = num / den := rfl
  have hlo : ((num / den : ℕ) : ℚ) * den ≤ num := by exact_mod_cast Nat.div_mul_le_self num den
  have hhi : (num : ℚ) < ((num / den : ℕ) + 1) * den := by
    have h := Nat.lt_mul_div_succ num hden
    rw [Nat.mul_comm] at h
    exact_mod_cast h
  have hdpos : (0 : ℚ) < den := by exact_mod_cast hden
  rw [hquot] at hlo hhi
  rw [hc]
  constructor
  · exact (le_div_iff₀ hk).mp (le_of_mul_le_mul_right hlo hdpos)
  · exact (div_lt_iff₀ hk).mp (lt_of_mul_lt_mul_right hhi hdpos.le)

/-- Around a point inside an interval, a grid finer than the interval has its point just below
the point, or the next one, inside the interval. -/
theorem between_of_spacing_lt {lo hi x s c : ℚ} (closed : Bool) (hlo : lo < x) (hhi : x < hi)
    (hs : s < hi - lo) (hc : c * s ≤ x) (hc' : x < (c + 1) * s) :
    Between lo hi closed (c * s) ∨ Between lo hi closed ((c + 1) * s) := by
  by_cases hbelow : lo < c * s
  · exact .inl ⟨.inl hbelow, .inl (lt_of_le_of_lt hc hhi)⟩
  · -- the point below is too low, so the next one, a spacing higher, is below `hi`
    refine .inr ⟨.inl (lt_trans hlo hc'), .inl ?_⟩
    linarith

/-- Seventeen digits always hit: that grid's spacing is at most a `10 ^ 16`-th of the
number, less than the width of its rounding interval. -/
theorem gridHit_seventeen (hm : 0 < m) (hm53 : m < 2 ^ 53)
    (hgap : lowGap = 2 ∨ lowGap = 1 ∧ m = 2 ^ 52) (closed : Bool) :
    GridHit m e lowGap closed (floorLog10 m e) 17 := by
  set t := floorLog10 m e
  set k := gridExponent t 17
  set c := gridFloor m e t 17
  set u : ℚ := 2 ^ (e - 2)
  obtain ⟨hcle, hclt⟩ := gridFloor_le m e t 17
  have hu : 0 < u := zpow_pos (by norm_num) _
  have hgap₁ : 1 ≤ lowGap ∧ lowGap ≤ 2 := by omega
  have hx : (m : ℚ) * 2 ^ e = 4 * m * u := by
    simp only [u, zpow_sub₀ (show (2 : ℚ) ≠ 0 by norm_num)]
    ring
  have hlo : lowerEnd m e lowGap = (4 * m - lowGap) * u := by
    simp only [lowerEnd, u]
    rw [Nat.cast_sub (by omega)]
    push_cast
    ring
  have hhi : upperEnd m e = (4 * m + 2) * u := by
    simp only [upperEnd, u]
    push_cast
    ring
  -- the grid spacing is below the width `(2 + lowGap) · u` of the interval
  have hspacing : (10 : ℚ) ^ k ≤ 4 * m * u / 10 ^ 16 := by
    have hk : k = t - 16 := by
      simp only [k, gridExponent]
      omega
    rw [hk, zpow_sub₀ (by norm_num), ← hx]
    exact div_le_div_of_nonneg_right (ten_zpow_floorLog10_le hm e) (by positivity)
  have hnarrow : (4 * m : ℚ) < (2 + lowGap) * 10 ^ 16 := by
    rcases hgap with rfl | ⟨rfl, rfl⟩
    · have hm' : m ≤ 9007199254740992 := by
        norm_num at hm53
        omega
      have : (m : ℚ) ≤ 9007199254740992 := by exact_mod_cast hm'
      push_cast
      linarith
    · norm_num
  have hwidth : (10 : ℚ) ^ k < (2 + lowGap) * u := by
    refine lt_of_le_of_lt hspacing ?_
    rw [div_lt_iff₀ (by positivity)]
    nlinarith
  -- the number lies inside its interval, and the interval is wider than the grid spacing
  have hinside : lowerEnd m e lowGap < m * 2 ^ e ∧ (m : ℚ) * 2 ^ e < upperEnd m e := by
    have hgapu : (0 : ℚ) < lowGap * u := mul_pos (by exact_mod_cast (hgap₁.1 : 0 < lowGap)) hu
    rw [hlo, hhi, hx]
    constructor <;> linarith
  simp only [GridHit, inRoundingInterval_iff]
  push_cast
  exact between_of_spacing_lt closed hinside.1 hinside.2 (by rw [hlo, hhi]; linarith) hcle hclt

end Search

/-! ## Patterns in order -/

/-- The position of a pattern among the patterns of its sign, in increasing magnitude: its
exponent bits, then its fraction bits. -/
def index (x : Binary64) : Nat := x.bits.toNat % 2 ^ 63

/-- The significand of the pattern at position `N`. -/
def sigOf (N : Nat) : Nat := if N / 2 ^ 52 = 0 then N % 2 ^ 52 else N % 2 ^ 52 + 2 ^ 52

/-- The exponent of the pattern at position `N`. -/
def expOf (N : Nat) : Int := ((max (N / 2 ^ 52) 1 : ℕ) : ℤ) - 1075

/-- How many quarter units the interval of the pattern at `N` reaches down: one for a power of
two above the first binade, whose lower neighbour is twice as close, two otherwise. -/
def gapOf (N : Nat) : Nat := if N % 2 ^ 52 = 0 ∧ 1 < N / 2 ^ 52 then 1 else 2

/-- The rounding interval of the pattern at `N`, with its ends when the significand is even. -/
def lowEnd (N : Nat) : ℚ := lowerEnd (sigOf N) (expOf N) (gapOf N)

def highEnd (N : Nat) : ℚ := upperEnd (sigOf N) (expOf N)

def closedAt (N : Nat) : Bool := sigOf N % 2 == 0

theorem biasedExponent_eq (x : Binary64) : x.biasedExponent = x.index / 2 ^ 52 := by
  simp only [biasedExponent, index, Nat.pow_eq]
  omega

theorem fraction_eq (x : Binary64) : x.fraction = x.index % 2 ^ 52 := by
  simp only [fraction, index, Nat.pow_eq]
  omega

theorem significand_eq_sigOf (x : Binary64) : x.significand = sigOf x.index := by
  simp only [significand, sigOf, biasedExponent_eq, fraction_eq, Nat.pow_eq]

theorem exponent_eq_expOf (x : Binary64) : x.exponent = expOf x.index := by
  simp only [exponent, expOf, biasedExponent_eq]

theorem gapOf_index (x : Binary64) :
    gapOf x.index = if x.significand = Nat.pow 2 52 ∧ 1 < x.biasedExponent then 1 else 2 := by
  simp only [gapOf, significand_eq_sigOf, sigOf, biasedExponent_eq, Nat.pow_eq]
  split_ifs <;> omega

/-- A pattern is its sign and its position. -/
theorem eq_of_index_eq {x y : Binary64} (hs : x.sign = y.sign) (hi : x.index = y.index) :
    x = y := by
  cases x with
  | mk a =>
    cases y with
    | mk b =>
      have ha := UInt64.toNat_lt a
      have hb := UInt64.toNat_lt b
      simp only [sign, index, Nat.pow_eq, decide_eq_decide] at hs hi
      congr
      apply UInt64.toNat_inj.mp
      by_cases ha : 2 ^ 63 ≤ a.toNat <;> omega

theorem index_eq_zero {x : Binary64} (h : x.significand = 0) : x.index = 0 := by
  rw [significand_eq_sigOf, sigOf] at h
  split at h <;> omega

/-- Consecutive patterns: the next significand at the same exponent, or the first significand
of the next binade after the last of this one. -/
theorem succ_cases (N : Nat) :
    (sigOf (N + 1) = sigOf N + 1 ∧ expOf (N + 1) = expOf N ∧ gapOf (N + 1) = 2) ∨
      (sigOf N = 2 * 2 ^ 52 - 1 ∧ sigOf (N + 1) = 2 ^ 52 ∧ expOf (N + 1) = expOf N + 1 ∧
        gapOf (N + 1) = 1) := by
  simp only [sigOf, expOf, gapOf]
  split_ifs <;> omega

theorem lowerEnd_lt_upperEnd (m : Nat) (e : Int) (lowGap : Nat) :
    lowerEnd m e lowGap < upperEnd m e := by
  have h : ((4 * m - lowGap : ℕ) : ℚ) < ((4 * m + 2 : ℕ) : ℚ) := by
    exact_mod_cast (by omega : 4 * m - lowGap < 4 * m + 2)
  exact mul_lt_mul_of_pos_right h (zpow_pos (by norm_num) _)

/-- Within a binade, the midpoint above a significand is the midpoint below the next. -/
theorem upperEnd_eq_lowerEnd_succ (m : Nat) (e : Int) : upperEnd m e = lowerEnd (m + 1) e 2 := by
  simp only [upperEnd, lowerEnd]
  rw [show 4 * (m + 1) - 2 = 4 * m + 2 by omega]

/-- Across binades the unit doubles: the midpoint above the last significand of a binade is a
quarter of the next unit below its first. -/
theorem upperEnd_eq_lowerEnd_binade (e : Int) :
    upperEnd (2 * 2 ^ 52 - 1) e = lowerEnd (2 ^ 52) (e + 1) 1 := by
  simp only [upperEnd, lowerEnd]
  rw [show e + 1 - 2 = e - 2 + 1 by ring, zpow_add_one₀ (by norm_num)]
  norm_num
  ring

theorem lowEnd_lt_highEnd (N : Nat) : lowEnd N < highEnd N := lowerEnd_lt_upperEnd _ _ _

theorem highEnd_eq_lowEnd_succ (N : Nat) : highEnd N = lowEnd (N + 1) := by
  unfold highEnd lowEnd
  rcases succ_cases N with ⟨hs, he, hg⟩ | ⟨hs₀, hs, he, hg⟩
  · rw [hs, he, hg, upperEnd_eq_lowerEnd_succ]
  · rw [hs₀, hs, he, hg, upperEnd_eq_lowerEnd_binade]

theorem highEnd_lt_lowEnd (N d : Nat) : highEnd N < lowEnd (N + 2 + d) := by
  induction d with
  | zero =>
    calc highEnd N = lowEnd (N + 1) := highEnd_eq_lowEnd_succ N
      _ < highEnd (N + 1) := lowEnd_lt_highEnd (N + 1)
      _ = lowEnd (N + 1 + 1) := highEnd_eq_lowEnd_succ (N + 1)
  | succ d ih =>
    calc highEnd N < lowEnd (N + 2 + d) := ih
      _ < highEnd (N + 2 + d) := lowEnd_lt_highEnd _
      _ = lowEnd (N + 2 + d + 1) := highEnd_eq_lowEnd_succ _

theorem closedAt_iff (N : Nat) : closedAt N = true ↔ N % 2 = 0 := by
  simp only [closedAt, sigOf, beq_iff_eq]
  split_ifs <;> omega

/-- The intervals of two patterns of one sign share no point: they follow each other in order,
and the midpoint between neighbours belongs to the one of them with an even significand. -/
theorem not_between_of_lt {N N' : Nat} (hlt : N < N') {v : ℚ}
    (h : Between (lowEnd N) (highEnd N) (closedAt N) v)
    (h' : Between (lowEnd N') (highEnd N') (closedAt N') v) : False := by
  obtain ⟨d, rfl⟩ := Nat.exists_eq_add_of_lt hlt
  cases d with
  | zero =>
    have hmid : highEnd N = lowEnd (N + 0 + 1) := highEnd_eq_lowEnd_succ N
    have hv : v = highEnd N := le_antisymm h.le_hi (hmid ▸ h'.lo_le)
    have hc : closedAt N = true := by
      rcases h.2 with hvlt | ⟨hc, -⟩
      · exact absurd hv hvlt.ne
      · exact hc
    have hc' : closedAt (N + 0 + 1) = true := by
      rcases h'.1 with hvlt | ⟨hc', -⟩
      · exact absurd (hv.trans hmid) hvlt.ne'
      · exact hc'
    rw [closedAt_iff] at hc hc'
    omega
  | succ d =>
    have hgap := highEnd_lt_lowEnd N d
    rw [show N + (d + 1) + 1 = N + 2 + d by omega] at h'
    linarith [h.le_hi, h'.lo_le]

theorem eq_of_between {N N' : Nat} {v : ℚ}
    (h : Between (lowEnd N) (highEnd N) (closedAt N) v)
    (h' : Between (lowEnd N') (highEnd N') (closedAt N') v) : N = N' := by
  rcases lt_trichotomy N N' with hlt | heq | hgt
  · exact (not_between_of_lt hlt h h').elim
  · exact heq
  · exact (not_between_of_lt hgt h' h).elim

theorem lowEnd_pos {N : Nat} (hN : sigOf N ≠ 0) : 0 < lowEnd N := by
  have hgap : gapOf N ≤ 2 := by
    simp only [gapOf]
    split_ifs <;> omega
  have h : (0 : ℚ) < ((4 * sigOf N - gapOf N : ℕ) : ℚ) := by exact_mod_cast (by omega)
  exact mul_pos h (zpow_pos (by norm_num) _)

/-! ## The shortest decimal -/

theorem shortest_eq_zero {x : Binary64} (h : x.significand = 0) : x.shortest = ⟨0, 0⟩ := by
  simp [shortest, h]

/-- The shortest decimal of a pattern with a nonzero significand lies in its rounding
interval. -/
theorem between_shortest (x : Binary64) (hm : x.significand ≠ 0) :
    Between (lowEnd x.index) (highEnd x.index) (closedAt x.index) x.shortest.value := by
  have hgap : gapOf x.index = 2 ∨ gapOf x.index = 1 ∧ x.significand = 2 ^ 52 := by
    rw [gapOf_index]
    split_ifs with h
    · exact .inr ⟨rfl, by simpa [Nat.pow_eq] using h.1⟩
    · exact .inl rfl
  have hhit := gridHit_seventeen (e := x.exponent) (Nat.pos_of_ne_zero hm) (significand_lt x)
    hgap (x.significand % 2 == 0)
  have hsearch := between_shortestFrom hhit 17 1 (by norm_num) (by norm_num)
  rw [gapOf_index] at hsearch
  simp only [lowEnd, highEnd, closedAt, ← significand_eq_sigOf, ← exponent_eq_expOf, gapOf_index]
  simpa [shortest, hm] using hsearch

/-- Two patterns of one sign whose shortest decimals have one value are the same pattern. -/
theorem eq_of_shortest_value_eq {x y : Binary64} (hs : x.sign = y.sign)
    (hv : x.shortest.value = y.shortest.value) : x = y := by
  refine eq_of_index_eq hs ?_
  -- a zero pattern has the decimal zero, any other a positive one
  have hpos : ∀ z : Binary64, z.significand ≠ 0 → 0 < z.shortest.value := fun z hz =>
    lt_of_lt_of_le (lowEnd_pos (by rwa [← significand_eq_sigOf])) (between_shortest z hz).lo_le
  have hzero : ∀ z : Binary64, z.significand = 0 → z.shortest.value = 0 := fun z hz => by
    simp [shortest_eq_zero hz, value]
  by_cases hx : x.significand = 0 <;> by_cases hy : y.significand = 0
  · rw [index_eq_zero hx, index_eq_zero hy]
  · have := hpos y hy
    rw [← hv, hzero x hx] at this
    exact absurd this (lt_irrefl 0)
  · have := hpos x hx
    rw [hv, hzero y hy] at this
    exact absurd this (lt_irrefl 0)
  · exact eq_of_between (between_shortest x hx) (hv ▸ between_shortest y hy)

end Binary64

end SchemaNorm
