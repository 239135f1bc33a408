import Mathlib
import SchemaNorm.Binary64

/-!
Which doubles rounding gives. `Binary64.round` packs a finite pattern or an infinity, never a
NaN, and an infinity only for a ratio beyond the largest finite magnitude
`(2 ^ 53 - 1) · 2 ^ 971`. So a product of finite doubles is never a NaN, a natural below
`2 ^ 64` rounds to a finite double, and a finite double divided by a power of ten up to
`10 ^ 308` stays finite.
-/

namespace SchemaNorm

namespace Binary64

section Fields

theorem toNat_ofFields (s : Bool) (b f : Nat) :
    (ofFields s b f).bits.toNat = (if s then 2 ^ 63 else 0) + b % 2048 * 2 ^ 52 + f % 2 ^ 52 := by
  have hb := Nat.mod_lt b (show 0 < 2048 by decide)
  have hf := Nat.mod_lt f (show 0 < 2 ^ 52 by decide)
  simp only [ofFields, Nat.pow_eq, UInt64.toNat_ofNat']
  apply Nat.mod_eq_of_lt
  split <;> omega

@[simp] theorem biasedExponent_ofFields (s : Bool) (b f : Nat) :
    (ofFields s b f).biasedExponent = b % 2048 := by
  simp only [biasedExponent, toNat_ofFields, Nat.pow_eq]
  split <;> omega

@[simp] theorem fraction_ofFields (s : Bool) (b f : Nat) :
    (ofFields s b f).fraction = f % 2 ^ 52 := by
  simp only [fraction, toNat_ofFields, Nat.pow_eq]
  split <;> omega

theorem biasedExponent_lt (x : Binary64) : x.biasedExponent < 2048 := by
  simp only [biasedExponent, Nat.pow_eq]
  omega

theorem isFinite_iff (x : Binary64) : x.isFinite = true ↔ x.biasedExponent ≠ 2047 := by
  simp [isFinite]

theorem isFinite_ofFields {s : Bool} {b : Nat} (hb : b < 2047) (f : Nat) :
    (ofFields s b f).isFinite = true := by
  rw [isFinite_iff, biasedExponent_ofFields, Nat.mod_eq_of_lt (by omega : b < 2048)]
  omega

theorem isFinite_zero (s : Bool) : (zero s).isFinite = true := isFinite_ofFields (by decide) 0

theorem isNaN_infinity (s : Bool) : (infinity s).isNaN = false := by
  simp [isNaN, infinity]

theorem isNaN_of_isFinite {x : Binary64} (hx : x.isFinite = true) : x.isNaN = false := by
  simp [isNaN, (isFinite_iff x).1 hx]

theorem isInfinite_of_isFinite {x : Binary64} (hx : x.isFinite = true) :
    x.isInfinite = false := by
  simp [isInfinite, (isFinite_iff x).1 hx]

/-- A double that is neither a NaN nor an infinity is finite. -/
theorem isFinite_of_not_isNaN {x : Binary64} (hnan : x.isNaN = false)
    (hinf : x.isInfinite = false) : x.isFinite = true := by
  simp only [isNaN, isInfinite, Bool.and_eq_false_iff, beq_eq_false_iff_ne, ne_eq,
    bne_eq_false_iff_eq] at hnan hinf
  rw [isFinite_iff]
  omega

theorem isFinite_neg (x : Binary64) : (-x).isFinite = x.isFinite := by
  show (neg x).isFinite = x.isFinite
  simp only [neg, isFinite, biasedExponent_ofFields, Nat.mod_eq_of_lt (biasedExponent_lt x)]

theorem significand_lt (x : Binary64) : x.significand < 2 ^ 53 := by
  have hf : x.fraction < 2 ^ 52 := by
    simp only [fraction, Nat.pow_eq]
    omega
  unfold significand
  simp only [Nat.pow_eq]
  split <;> omega

theorem exponent_le {x : Binary64} (hx : x.isFinite = true) : x.exponent ≤ 971 := by
  have hlt := biasedExponent_lt x
  have hne := (isFinite_iff x).1 hx
  unfold exponent
  omega

end Fields

/-! ## The stages of rounding -/

section Stages

-- `round` taken apart: the scale that leaves 53 bits before the point, the quotient rounded
-- to nearest with ties to even, the carry of a quotient that reached `2 ^ 53`, and the packing
-- into fields.
def roundScale (num den : Nat) : Int := max (floorLog2Ratio num den - 52) (-1074)

def roundedQuotient (num den : Nat) (scale : Int) : Nat :=
  let (q, r) := scaledDivision num den (-scale)
  let divisor := if 0 ≤ -scale then den else den * 2 ^ scale.toNat
  let up := divisor < 2 * r || (2 * r == divisor && q % 2 == 1)
  if up then q + 1 else q

def carry (q : Nat) (scale : Int) : Nat × Int :=
  if q = 2 ^ 53 then (2 ^ 52, scale + 1) else (q, scale)

def pack (sign : Bool) (q : Nat) (scale : Int) : Binary64 :=
  if q < 2 ^ 52 then ofFields sign 0 q
  else
    let biased := scale + 1075
    if 2047 ≤ biased then infinity sign else ofFields sign biased.toNat (q - 2 ^ 52)

theorem round_eq (s : Bool) (num den : Nat) (e : Int) :
    round s num den e =
      if num = 0 ∨ den = 0 then zero s
      else
        let n := if 0 ≤ e then num * 2 ^ e.toNat else num
        let d := if 0 ≤ e then den else den * 2 ^ (-e).toNat
        let p := carry (roundedQuotient n d (roundScale n d)) (roundScale n d)
        pack s p.1 p.2 := by
  unfold round pack carry roundedQuotient roundScale
  rfl

theorem pack_cases (s : Bool) (q : Nat) (scale : Int) :
    (∃ b f, b < 2047 ∧ pack s q scale = ofFields s b f) ∨
      (pack s q scale = infinity s ∧ 972 ≤ scale) := by
  unfold pack
  split
  · exact .inl ⟨0, q, by decide, rfl⟩
  · dsimp only
    split
    · exact .inr ⟨rfl, by omega⟩
    · exact .inl ⟨_, _, by omega, rfl⟩

theorem carry_snd (q : Nat) (scale : Int) :
    (carry q scale).2 = scale ∨ (q = 2 ^ 53 ∧ (carry q scale).2 = scale + 1) := by
  unfold carry
  split
  · exact .inr ⟨by simpa using ‹_›, rfl⟩
  · exact .inl rfl

theorem ratioAtLeastPow2_iff (num den : Nat) (k : Int) :
    ratioAtLeastPow2 num den k = true ↔ den * 2 ^ k.toNat ≤ num * 2 ^ (-k).toNat := by
  unfold ratioAtLeastPow2
  split
  · have hk : (-k).toNat = 0 := by omega
    simp [hk, Nat.pow_eq]
  · have hk : k.toNat = 0 := by omega
    simp [hk, Nat.pow_eq]

/-- The ratio is at least two to the power `floorLog2Ratio` gives. -/
theorem floorLog2Ratio_spec {num den : Nat} (hnum : 0 < num) :
    den * 2 ^ (floorLog2Ratio num den).toNat ≤ num * 2 ^ (-floorLog2Ratio num den).toNat := by
  unfold floorLog2Ratio
  dsimp only
  split
  · exact (ratioAtLeastPow2_iff _ _ _).1 ‹_›
  · -- the bit lengths put the ratio at least at `2 ^ (k - 1)`
    have hnum2 : 2 ^ num.log2 ≤ num := Nat.log2_self_le (by omega)
    have hden2 : den < 2 ^ (den.log2 + 1) := Nat.lt_log2_self
    generalize num.log2 = a at hnum2 ⊢
    generalize den.log2 = c at hden2 ⊢
    by_cases hac : c + 1 ≤ a
    · have h1 : ((a : Int) - c - 1).toNat = a - (c + 1) := by omega
      have h2 : (-((a : Int) - c - 1)).toNat = 0 := by omega
      rw [h1, h2, Nat.pow_zero, Nat.mul_one]
      calc den * 2 ^ (a - (c + 1)) ≤ 2 ^ (c + 1) * 2 ^ (a - (c + 1)) :=
            Nat.mul_le_mul_right _ (Nat.le_of_lt hden2)
        _ = 2 ^ a := by rw [← Nat.pow_add]; congr 1; omega
        _ ≤ num := hnum2
    · have h1 : ((a : Int) - c - 1).toNat = 0 := by omega
      have h2 : (-((a : Int) - c - 1)).toNat = c + 1 - a := by omega
      rw [h1, h2, Nat.pow_zero, Nat.mul_one]
      calc den ≤ 2 ^ (c + 1) := Nat.le_of_lt hden2
        _ = 2 ^ a * 2 ^ (c + 1 - a) := by rw [← Nat.pow_add]; congr 1; omega
        _ ≤ num * 2 ^ (c + 1 - a) := Nat.mul_le_mul_right _ hnum2

theorem floorLog2Ratio_le {num den : Nat} (hnum : 0 < num) (hden : 0 < den)
    (hrange : num ≤ (2 ^ 53 - 1) * 2 ^ 971 * den) : floorLog2Ratio num den ≤ 1023 := by
  have hk := @floorLog2Ratio_spec num den hnum
  generalize floorLog2Ratio num den = k at hk
  refine Int.not_lt.mp fun hbig => ?_
  have h0 : (-k).toNat = 0 := by omega
  rw [h0, Nat.pow_zero, Nat.mul_one] at hk
  have hpow : 2 ^ 1024 ≤ 2 ^ k.toNat := by
    apply Nat.pow_le_pow_right
    · decide
    · omega
  have hle : den * 2 ^ 1024 ≤ (2 ^ 53 - 1) * 2 ^ 971 * den :=
    calc den * 2 ^ 1024 ≤ den * 2 ^ k.toNat := Nat.mul_le_mul_left _ hpow
      _ ≤ num := hk
      _ ≤ _ := hrange
  omega

theorem roundScale_le {num den : Nat} (hnum : 0 < num) (hden : 0 < den)
    (hrange : num ≤ (2 ^ 53 - 1) * 2 ^ 971 * den) : roundScale num den ≤ 971 := by
  have := floorLog2Ratio_le hnum hden hrange
  unfold roundScale
  omega

/-- A ratio of at most `2 ^ 53 - 1` units never rounds up to `2 ^ 53`. -/
theorem roundedQuotient_lt {num den : Nat} {scale : Int} (hden : 0 < den) (hscale : 0 < scale)
    (hrange : num ≤ (2 ^ 53 - 1) * 2 ^ scale.toNat * den) :
    roundedQuotient num den scale < 2 ^ 53 := by
  unfold roundedQuotient scaledDivision
  simp only [if_neg (show ¬ 0 ≤ -scale by omega), Int.neg_neg, Nat.pow_eq]
  rw [Nat.mul_assoc, Nat.mul_comm (2 ^ scale.toNat)] at hrange
  generalize hb : den * 2 ^ scale.toNat = b at hrange ⊢
  have hbpos : 0 < b := hb ▸ Nat.mul_pos hden (Nat.two_pow_pos _)
  have hq : num / b ≤ 2 ^ 53 - 1 := Nat.div_le_of_le_mul (by rw [Nat.mul_comm]; exact hrange)
  have hdm := Nat.div_add_mod num b
  have hr := Nat.mod_lt num hbpos
  generalize num / b = q at hq hdm ⊢
  generalize num % b = r at hdm hr ⊢
  rcases Nat.lt_or_ge q (2 ^ 53 - 1) with hlt | hge
  · split <;> omega
  · -- the quotient is the largest significand: the ratio is exactly it, and nothing rounds up
    have hq' : q = 2 ^ 53 - 1 := by omega
    subst hq'
    have hr0 : r = 0 := by omega
    subst hr0
    split
    · rename_i hup
      simp only [Bool.or_eq_true, decide_eq_true_eq, Bool.and_eq_true, beq_iff_eq] at hup
      omega
    · omega

end Stages

/-! ## What rounding gives -/

/-- `num / den · 2 ^ e` is at most the largest finite magnitude, `(2 ^ 53 - 1) · 2 ^ 971`. -/
def WithinRange (num den : Nat) (e : Int) : Prop :=
  num * 2 ^ e.toNat ≤ (2 ^ 53 - 1) * 2 ^ 971 * (den * 2 ^ (-e).toNat)

theorem withinRange_iff (num den : Nat) (e : Int) :
    WithinRange num den e ↔
      (if 0 ≤ e then num * 2 ^ e.toNat else num) ≤
        (2 ^ 53 - 1) * 2 ^ 971 * (if 0 ≤ e then den else den * 2 ^ (-e).toNat) := by
  unfold WithinRange
  split
  · have he : (-e).toNat = 0 := by omega
    rw [he, Nat.pow_zero, Nat.mul_one]
  · have he : e.toNat = 0 := by omega
    rw [he, Nat.pow_zero, Nat.mul_one]

/-- Rounding packs a finite pattern, or an infinity for a ratio out of range. -/
theorem round_cases (s : Bool) (num den : Nat) (e : Int) :
    (∃ b f, b < 2047 ∧ round s num den e = ofFields s b f) ∨
      (round s num den e = infinity s ∧ ¬ WithinRange num den e) := by
  rw [round_eq, withinRange_iff]
  split
  · exact .inl ⟨0, 0, by decide, rfl⟩
  · rename_i hpos
    have hn0 : 0 < if 0 ≤ e then num * 2 ^ e.toNat else num := by
      split
      · exact Nat.mul_pos (by omega) (Nat.two_pow_pos _)
      · omega
    have hd0 : 0 < if 0 ≤ e then den else den * 2 ^ (-e).toNat := by
      split
      · omega
      · exact Nat.mul_pos (by omega) (Nat.two_pow_pos _)
    generalize (if 0 ≤ e then num * 2 ^ e.toNat else num) = n at hn0 ⊢
    generalize (if 0 ≤ e then den else den * 2 ^ (-e).toNat) = d at hd0 ⊢
    dsimp only
    generalize hsc : roundScale n d = sc
    rcases pack_cases s (carry (roundedQuotient n d sc) sc).1 (carry (roundedQuotient n d sc) sc).2
      with hfin | ⟨hinf, hbig⟩
    · exact .inl hfin
    · refine .inr ⟨hinf, fun hrange => ?_⟩
      have hscale : sc ≤ 971 := hsc ▸ roundScale_le hn0 hd0 hrange
      rcases carry_snd (roundedQuotient n d sc) sc with hkeep | ⟨hq, hup⟩
      · omega
      · -- a carry past the top scale needs the quotient `2 ^ 53`, which a ratio in range never
        -- rounds to
        have htop : sc = 971 := by omega
        subst htop
        have hrange' : n ≤ (2 ^ 53 - 1) * 2 ^ (971 : Int).toNat * d := by
          rw [show (971 : Int).toNat = 971 from rfl]
          exact hrange
        have hlt := roundedQuotient_lt hd0 (by decide) hrange'
        omega

theorem round_isNaN (s : Bool) (num den : Nat) (e : Int) : (round s num den e).isNaN = false := by
  rcases round_cases s num den e with ⟨b, f, hb, h⟩ | ⟨h, -⟩
  · rw [h]
    exact isNaN_of_isFinite (isFinite_ofFields hb f)
  · rw [h]
    exact isNaN_infinity s

theorem round_isFinite {s : Bool} {num den : Nat} {e : Int} (hrange : WithinRange num den e) :
    (round s num den e).isFinite = true := by
  rcases round_cases s num den e with ⟨b, f, hb, h⟩ | ⟨-, hout⟩
  · rw [h]
    exact isFinite_ofFields hb f
  · exact absurd hrange hout

theorem isFinite_ofNat {n : Nat} (hn : n < 2 ^ 64) : (ofNat n).isFinite = true := by
  apply round_isFinite
  unfold WithinRange
  simp only [Int.toNat_zero, Int.neg_zero, Nat.pow_zero, Nat.mul_one]
  omega

/-! ## Products and quotients -/

theorem isNaN_mul {x y : Binary64} (hx : x.isFinite = true) (hy : y.isFinite = true) :
    (x * y).isNaN = false := by
  show (mul x y).isNaN = false
  unfold mul
  simp only [isNaN_of_isFinite hx, isNaN_of_isFinite hy, isInfinite_of_isFinite hx,
    isInfinite_of_isFinite hy, Bool.or_false, Bool.false_eq_true, if_false]
  exact round_isNaN _ _ _ _

-- The table of powers of ten holds normal doubles of at least `1`.
theorem pow10_normal : ∀ k ≤ 308, (pow10 k).isFinite = true ∧ (pow10 k).isZero = false ∧
    2 ^ 52 ≤ (pow10 k).significand ∧ -52 ≤ (pow10 k).exponent := by
  decide +kernel

theorem isFinite_div_pow10 {x : Binary64} (hx : x.isFinite = true) {k : Nat} (hk : k ≤ 308) :
    (x / pow10 k).isFinite = true := by
  obtain ⟨hfin, hzero, hsig, hexp⟩ := pow10_normal k hk
  show (div x (pow10 k)).isFinite = true
  unfold div
  simp only [isNaN_of_isFinite hx, isNaN_of_isFinite hfin, isInfinite_of_isFinite hx,
    isInfinite_of_isFinite hfin, hzero, Bool.or_false, Bool.false_eq_true, if_false]
  apply round_isFinite
  have hxsig : x.significand ≤ 2 ^ 53 - 1 := by
    have := significand_lt x
    omega
  have hE : (x.exponent - (pow10 k).exponent).toNat ≤ 971 + 52 := by
    have := exponent_le hx
    omega
  unfold WithinRange
  generalize x.exponent - (pow10 k).exponent = E at hE ⊢
  -- over a normal significand, even the top exponent leaves the quotient in range; the top
  -- exponent is named so that no power of it is ever computed
  generalize (971 : Nat) = t at hE ⊢
  have hpow : 2 ^ E.toNat ≤ 2 ^ t * 2 ^ 52 :=
    Nat.le_trans (Nat.pow_le_pow_right Nat.two_pos hE) (Nat.le_of_eq (Nat.pow_add 2 t 52))
  have hden : 2 ^ 52 ≤ (pow10 k).significand * 2 ^ (-E).toNat :=
    Nat.le_trans hsig (Nat.le_mul_of_pos_right _ (Nat.two_pow_pos _))
  generalize 2 ^ t = T at hpow ⊢
  generalize 2 ^ 53 - 1 = B at hxsig ⊢
  generalize 2 ^ 52 = P at hpow hden
  calc x.significand * 2 ^ E.toNat ≤ B * (T * P) := Nat.mul_le_mul hxsig hpow
    _ ≤ B * (T * ((pow10 k).significand * 2 ^ (-E).toNat)) :=
      Nat.mul_le_mul_left _ (Nat.mul_le_mul_left _ hden)
    _ = B * T * ((pow10 k).significand * 2 ^ (-E).toNat) := (Nat.mul_assoc _ _ _).symm

end Binary64

end SchemaNorm
