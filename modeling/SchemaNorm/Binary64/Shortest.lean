import SchemaNorm.Binary64

/-!
The shortest decimal that reads back as a given binary64 number.

Every finite nonzero number `m · 2 ^ e` owns an interval of reals that round to it. The
shortest decimal is found by trying one significant digit, then two, up to seventeen: on each
grid the two grid points around the number are the only candidates that can lie in its
interval, and the first grid with a candidate inside wins. Of two candidates the nearer is
taken, and of two equally near ones the even. All comparisons are exact ones of naturals.
-/

namespace SchemaNorm

/-- A decimal `digits · 10 ^ exponent`; `digits` carries no trailing zero unless it is zero. -/
structure Decimal where
  digits : Nat
  exponent : Int
  deriving DecidableEq, Repr, Inhabited

namespace Decimal

/-- Compares `a · 10 ^ p` with `b · 2 ^ q` exactly. -/
def compareScaled (a : Nat) (p : Int) (b : Nat) (q : Int) : Ordering :=
  let lhs := a * Nat.pow 10 p.toNat * Nat.pow 2 (-q).toNat
  let rhs := b * Nat.pow 2 q.toNat * Nat.pow 10 (-p).toNat
  compare lhs rhs

/-- The number of decimal digits of `n` (one for zero). -/
def digitCount (n : Nat) : Nat := (Nat.repr n).length

/-- `⌊log₁₀ (m · 2 ^ e)⌋` for positive `m`: digit counts give it up to one. -/
def floorLog10 (m : Nat) (e : Int) : Int :=
  let num := m * Nat.pow 2 e.toNat
  let den := Nat.pow 2 (-e).toNat
  let k : Int := (digitCount num : Int) - digitCount den
  -- `10 ^ k ≤ num / den` decides between `k` and `k - 1`
  if compareScaled 1 k m e != .gt then k else k - 1

/-- Drops trailing zeros of the digits, raising the exponent for each. -/
def trim (digits : Nat) (exponent : Int) (fuel : Nat) : Decimal :=
  match fuel with
  | 0 => ⟨digits, exponent⟩
  | fuel + 1 =>
    if digits ≠ 0 ∧ digits % 10 = 0 then trim (digits / 10) (exponent + 1) fuel
    else ⟨digits, exponent⟩

/-- The decimal with trailing zeros removed. -/
def normalize (digits : Nat) (exponent : Int) : Decimal :=
  trim digits exponent (digitCount digits)

end Decimal

namespace Binary64

/-- Whether `c · 10 ^ k` lies in the rounding interval of `m · 2 ^ e`, whose ends are
`(4m - lowGap) · 2 ^ (e - 2)` and `(4m + 2) · 2 ^ (e - 2)` and belong to it when `closed`. -/
def inRoundingInterval (m : Nat) (e : Int) (lowGap : Nat) (closed : Bool) (c : Nat) (k : Int) :
    Bool :=
  let low := Decimal.compareScaled c k (4 * m - lowGap) (e - 2)
  let high := Decimal.compareScaled c k (4 * m + 2) (e - 2)
  let aboveLow := low == .gt || (closed && low == .eq)
  let belowHigh := high == .lt || (closed && high == .eq)
  aboveLow && belowHigh

/-- The search over grids of `n, n + 1, …` significant digits, for `m · 2 ^ e` whose first
digit stands at `10 ^ t`. Seventeen digits always succeed, so the fuel never runs out on a
finite number. -/
def shortestFrom (m : Nat) (e : Int) (lowGap : Nat) (closed : Bool) (t : Int) :
    Nat → Nat → Decimal
  | _, 0 => ⟨m, e⟩
  | n, fuel + 1 =>
    let k := t - n + 1
    -- `c = ⌊m · 2 ^ e / 10 ^ k⌋`
    let num := m * Nat.pow 2 e.toNat * Nat.pow 10 (-k).toNat
    let den := Nat.pow 2 (-e).toNat * Nat.pow 10 k.toNat
    let c := num / den
    let lowIn := inRoundingInterval m e lowGap closed c k
    let highIn := inRoundingInterval m e lowGap closed (c + 1) k
    if lowIn && highIn then
      -- nearer of the two: compare `(2c + 1) · 10 ^ k` with `2m · 2 ^ e`
      match Decimal.compareScaled (2 * c + 1) k (2 * m) e with
      | .gt => Decimal.normalize c k
      | .lt => Decimal.normalize (c + 1) k
      | .eq => if c % 2 = 0 then Decimal.normalize c k else Decimal.normalize (c + 1) k
    else if lowIn then Decimal.normalize c k
    else if highIn then Decimal.normalize (c + 1) k
    else shortestFrom m e lowGap closed t (n + 1) fuel

/-- The shortest decimal that rounds back to the magnitude of a finite number, nearest to it
among those of that length; zero for both zeros. -/
def shortest (x : Binary64) : Decimal :=
  let m := x.significand
  let e := x.exponent
  if m = 0 then ⟨0, 0⟩
  else
    -- below a power of two the next smaller number is only half as far away
    let lowGap := if m = Nat.pow 2 52 ∧ 1 < x.biasedExponent then 1 else 2
    shortestFrom m e lowGap (m % 2 == 0) (Decimal.floorLog10 m e) 1 17

end Binary64

end SchemaNorm
