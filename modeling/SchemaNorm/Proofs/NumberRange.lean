import SchemaNorm.Proofs.Rounding
import SchemaNorm.Proofs.SchemaJson
import SchemaNorm.Yaml.Scalar

/-!
The ranges the readers keep numbers in. A JSON number literal reads as a natural below
`2 ^ 64`, an integer from `-2 ^ 63` to `0`, or a finite double: a literal out of range is
refused, never read as an infinity. A YAML plain scalar that stands for a number is in the same
ranges, since its non-finite doubles stand for texts. A default decoded from such a number is
an integer of 64 signed bits or a finite double: what the JSON text of a schema needs of a
default, apart from the read-back of its digits.
-/

namespace SchemaNorm

namespace Number

open Binary64

/-- The ranges reading keeps a number in: a natural below `2 ^ 64`, an integer from `-2 ^ 63`
to `0`, a finite double. -/
def InRange : Number → Prop
  | .nat n => n < 2 ^ 64
  | .negInt i => -2 ^ 63 ≤ i ∧ i ≤ 0
  | .float x => x.isFinite = true

instance : DecidablePred InRange
  | .nat n => inferInstanceAs (Decidable (n < 2 ^ 64))
  | .negInt i => inferInstanceAs (Decidable (-2 ^ 63 ≤ i ∧ i ≤ 0))
  | .float x => inferInstanceAs (Decidable (x.isFinite = true))

theorem scale_isFinite {f : Binary64} {e : Int} (hf : f.isFinite = true) {g : Binary64}
    (h : scale f e = some g) : g.isFinite = true := by
  -- the induction follows `scale`: within the table of powers one product or quotient,
  -- beyond it quotients by `10 ^ 308`
  induction f, e using scale.induct with
  | case1 f e hle hnn prod hinf =>
    rw [scale, if_pos hle, if_pos hnn] at h
    simp only [show (f * pow10 e.toNat).isInfinite = true from hinf, if_true] at h
    cases h
  | case2 f e hle hnn prod hprod =>
    rw [scale, if_pos hle, if_pos hnn] at h
    have hinf : (f * pow10 e.toNat).isInfinite = false := by simpa using hprod
    simp only [hinf, Bool.false_eq_true, if_false, Option.some.injEq] at h
    subst h
    exact isFinite_of_not_isNaN (isNaN_mul hf (pow10_normal _ (by omega)).1) hinf
  | case3 f e hle hneg =>
    rw [scale, if_pos hle, if_neg hneg, Option.some.injEq] at h
    subst h
    exact isFinite_div_pow10 hf hle
  | case4 f e hbig hzero =>
    rw [scale, if_neg hbig, if_pos hzero, Option.some.injEq] at h
    subst h
    exact hf
  | case5 f e hbig hzero hnn =>
    rw [scale, if_neg hbig, if_neg hzero, if_pos hnn] at h
    cases h
  | case6 f e hbig hzero hneg ih =>
    rw [scale, if_neg hbig, if_neg hzero, if_neg hneg] at h
    exact ih (isFinite_div_pow10 hf (Nat.le_refl 308)) h

theorem lt_of_le_significandLimit {sig : Nat} (hsig : sig ≤ significandLimit) : sig < 2 ^ 64 := by
  simp only [significandLimit, Nat.pow_eq] at hsig
  omega

theorem fromParts_isFinite {negative : Bool} {sig : Nat} (hsig : sig ≤ significandLimit) {e : Int}
    {g : Binary64} (h : fromParts negative sig e = some g) : g.isFinite = true := by
  unfold fromParts at h
  obtain ⟨f, hf, rfl⟩ := Option.map_eq_some_iff.mp h
  have hfin := scale_isFinite (isFinite_ofNat (lt_of_le_significandLimit hsig)) hf
  split
  · rw [isFinite_neg]
    exact hfin
  · exact hfin

section Stages

variable {negative : Bool} {sig : Nat} {g : Binary64}

theorem exponentDigits_isFinite (hsig : sig ≤ significandLimit) {start : Int} {positive : Bool}
    {e : Nat} {cs : List Char} (h : exponentDigits negative sig start positive e cs = some g) :
    g.isFinite = true := by
  induction cs generalizing e with
  | nil => exact fromParts_isFinite hsig h
  | cons c rest ih =>
    rw [exponentDigits] at h
    split at h
    · dsimp only at h
      split at h
      · -- an exponent past the limit: refused, or a zero
        split at h
        · cases h
        · rw [Option.some.injEq] at h
          subst h
          exact isFinite_zero negative
      · exact ih h
    · cases h

theorem exponentPart_isFinite (hsig : sig ≤ significandLimit) {start : Int} {cs : List Char}
    (h : exponentPart negative sig start cs = some g) : g.isFinite = true := by
  unfold exponentPart at h
  split at h
  split at h
  · split at h
    · exact exponentDigits_isFinite hsig h
    · cases h
  · cases h

theorem afterDigits_isFinite (hsig : sig ≤ significandLimit) {e : Int} {cs : List Char}
    (h : afterDigits negative sig e cs = some g) : g.isFinite = true := by
  cases cs with
  | nil => exact fromParts_isFinite hsig h
  | cons c rest =>
    rw [afterDigits] at h
    split at h
    · exact exponentPart_isFinite hsig h
    · cases h

theorem fractionDigits_isFinite (hsig : sig ≤ significandLimit) {e : Int} {count : Nat}
    {cs : List Char} (h : fractionDigits negative sig e count cs = some g) :
    g.isFinite = true := by
  induction cs generalizing sig e count with
  | nil =>
    rw [fractionDigits] at h
    split at h
    · cases h
    · exact fromParts_isFinite hsig h
  | cons c rest ih =>
    rw [fractionDigits] at h
    split at h
    · dsimp only at h
      -- a digit that would pass the limit ends the collection, so the significand stays in it
      split at h
      · exact afterDigits_isFinite hsig h
      · exact ih (by omega) h
    · split at h
      · cases h
      · exact afterDigits_isFinite hsig h

theorem longIntegerDigits_isFinite (hsig : sig ≤ significandLimit) {e : Int} {cs : List Char}
    (h : longIntegerDigits negative sig e cs = some g) : g.isFinite = true := by
  induction cs generalizing e with
  | nil => exact fromParts_isFinite hsig h
  | cons c rest ih =>
    rw [longIntegerDigits] at h
    split at h
    · exact ih h
    · split at h
      · exact fractionDigits_isFinite hsig h
      · split at h
        · exact exponentPart_isFinite hsig h
        · cases h

end Stages

section Numbers

variable {negative : Bool} {sig : Nat}

theorem negativeInteger_inRange (hsig : sig ≤ significandLimit) :
    (negativeInteger sig).InRange := by
  unfold negativeInteger
  split
  · rename_i hexact
    simp only [InRange, Nat.pow_eq] at hexact ⊢
    omega
  · simp only [InRange, isFinite_neg]
    exact isFinite_ofNat (lt_of_le_significandLimit hsig)

theorem afterInteger_inRange (hsig : sig ≤ significandLimit) {cs : List Char} {n : Number}
    (h : afterInteger negative sig cs = some n) : n.InRange := by
  unfold afterInteger at h
  split at h
  · obtain ⟨x, hx, rfl⟩ := Option.map_eq_some_iff.mp h
    exact fractionDigits_isFinite hsig hx
  · split at h
    · obtain ⟨x, hx, rfl⟩ := Option.map_eq_some_iff.mp h
      exact exponentPart_isFinite hsig hx
    · cases h
  · rw [Option.some.injEq] at h
    subst h
    split
    · exact negativeInteger_inRange hsig
    · exact lt_of_le_significandLimit hsig

theorem integerDigits_inRange (hsig : sig ≤ significandLimit) {cs : List Char} {n : Number}
    (h : integerDigits negative sig cs = some n) : n.InRange := by
  induction cs generalizing sig with
  | nil =>
    rw [integerDigits] at h
    exact afterInteger_inRange hsig h
  | cons c rest ih =>
    rw [integerDigits] at h
    split at h
    · dsimp only at h
      split at h
      · obtain ⟨x, hx, rfl⟩ := Option.map_eq_some_iff.mp h
        exact longIntegerDigits_isFinite hsig hx
      · exact ih (by omega) h
    · exact afterInteger_inRange hsig h

theorem ofDigits_inRange {cs : List Char} {n : Number} (h : ofDigits negative cs = some n) :
    n.InRange := by
  unfold ofDigits at h
  split at h
  · exact afterInteger_inRange (Nat.zero_le _) h
  · split at h
    · rename_i c _ _ hdigit
      -- a first digit is far below the significand limit
      have hc : digitValue c ≤ significandLimit := by
        have hcode := Char.isDigit_iff_toNat.mp hdigit
        have h9 : '9'.toNat = 57 := rfl
        simp only [digitValue, significandLimit, Nat.pow_eq]
        omega
      exact integerDigits_inRange hc h
    · cases h
  · cases h

end Numbers

/-- A JSON number literal reads as a natural below `2 ^ 64`, an integer from `-2 ^ 63` to `0`,
or a finite double. -/
theorem ofLiteral?_inRange {s : String} {n : Number} (h : ofLiteral? s = some n) : n.InRange := by
  unfold ofLiteral? at h
  split at h
  · exact ofDigits_inRange h
  · exact ofDigits_inRange h

end Number

namespace Yaml

theorem intWord?_inRange {t : String} {n : Number} (h : intWord? t = some n) : n.InRange := by
  unfold intWord? at h
  split at h
  split at h
  split at h
  · split at h
    · split at h
      · rename_i hle
        rw [Option.some.injEq] at h
        subst h
        simp only [Number.InRange]
        simp only [Nat.pow_eq] at hle
        omega
      · cases h
    · split at h
      · rename_i hlt
        rw [Option.some.injEq] at h
        subst h
        simpa only [Number.InRange, Nat.pow_eq] using hlt
      · cases h
  · cases h

theorem floatDatum_inRange {x : Binary64} {n : Number} (h : floatDatum x = .num n) :
    n.InRange := by
  unfold floatDatum at h
  split at h
  · cases h
  · split at h
    · cases h
    · rename_i hnan hinf
      cases h
      exact Binary64.isFinite_of_not_isNaN (by simpa using hnan) (by simpa using hinf)

/-- A plain scalar that stands for a number stands for one in range. -/
theorem plainDatum_inRange {t : String} {n : Number} (h : plainDatum t = .num n) : n.InRange := by
  unfold plainDatum at h
  split at h
  · cases h
  · split at h
    · cases h
    · split at h
      · rename_i m hm
        cases h
        exact intWord?_inRange hm
      · split at h
        · exact floatDatum_inRange h
        · cases h

end Yaml

namespace DefaultValue

/-- A default in the ranges of the readers: an integer of 64 signed bits or a finite double. -/
def InRange : DefaultValue → Prop
  | .int i => -2 ^ 63 ≤ i ∧ i < 2 ^ 63
  | .float x => x.isFinite = true
  | .bool _ | .text _ => True

instance : DecidablePred InRange
  | .int i => inferInstanceAs (Decidable (-2 ^ 63 ≤ i ∧ i < 2 ^ 63))
  | .float x => inferInstanceAs (Decidable (x.isFinite = true))
  | .bool _ => inferInstanceAs (Decidable True)
  | .text _ => inferInstanceAs (Decidable True)

/-- A default decoded from a number in range is in range. -/
theorem decode?_num_inRange {n : Number} (hn : n.InRange) {v : DefaultValue}
    (h : decode? (.num n) = some v) : v.InRange := by
  cases n with
  | nat m =>
    simp only [decode?, Option.some.injEq] at h
    subst h
    split
    · rename_i hsmall
      simp only [InRange, Nat.pow_eq] at hsmall ⊢
      omega
    · exact Binary64.isFinite_ofNat hn
  | negInt i =>
    simp only [decode?, Option.some.injEq] at h
    subst h
    simp only [Number.InRange] at hn
    simp only [InRange]
    omega
  | float x =>
    simp only [decode?, Option.some.injEq] at h
    subst h
    exact hn

/-- A default keeps its kind and value through the JSON text when it is in range and, for a
double, its bits come back from its data layout. -/
theorem representable_iff {v : DefaultValue} :
    v.Representable ↔ v.InRange ∧ ∀ x, v = .float x → x.ReadsBack := by
  cases v with
  | int i => simp [Representable, InRange]
  | float x => simp [Representable, InRange]
  | bool b => simp [Representable, InRange]
  | text s => simp [Representable, InRange]

end DefaultValue

end SchemaNorm
