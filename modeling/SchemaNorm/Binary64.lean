/-!
IEEE 754 binary64 numbers, kept as their 64-bit patterns so that two values are equal exactly
when their bits are (`-0.0` and `0.0` differ, as the formats that print them do).

The one primitive is `Binary64.round`: the pattern nearest to a positive ratio scaled by a
power of two, ties going to the even significand, too large values to infinity. Products and
quotients of finite values are their exact ratios rounded once, which is what the standard
asks of them.
-/

namespace SchemaNorm

/-- A binary64 floating-point number, as its bit pattern. -/
structure Binary64 where
  bits : UInt64
  deriving DecidableEq, Inhabited, Repr

namespace Binary64

/-- The sign bit: `true` for negative numbers, `-0.0` and negative infinity. -/
def sign (x : Binary64) : Bool := Nat.pow 2 63 ≤ x.bits.toNat

/-- The eleven exponent bits, read as a natural number. -/
def biasedExponent (x : Binary64) : Nat := x.bits.toNat / Nat.pow 2 52 % Nat.pow 2 11

/-- The 52 fraction bits. -/
def fraction (x : Binary64) : Nat := x.bits.toNat % Nat.pow 2 52

/-- Finite numbers are those whose exponent bits are not all ones. -/
def isFinite (x : Binary64) : Bool := x.biasedExponent != 2047

/-- Infinities have all exponent bits set and no fraction. -/
def isInfinite (x : Binary64) : Bool := x.biasedExponent == 2047 && x.fraction == 0

/-- A NaN has all exponent bits set and some fraction. -/
def isNaN (x : Binary64) : Bool := x.biasedExponent == 2047 && x.fraction != 0

/-- Both zeros: no exponent and no fraction bits. -/
def isZero (x : Binary64) : Bool := x.biasedExponent == 0 && x.fraction == 0

/-- The integer significand of a finite number: the fraction, with the hidden leading bit for
normal numbers. -/
def significand (x : Binary64) : Nat :=
  if x.biasedExponent = 0 then x.fraction else x.fraction + Nat.pow 2 52

/-- The power of two by which the significand of a finite number is scaled. Subnormal
numbers share the exponent of the smallest normal ones. -/
def exponent (x : Binary64) : Int := (max x.biasedExponent 1 : Nat) - 1075

/-- The pattern with the given sign, exponent bits and fraction bits. -/
def ofFields (sign : Bool) (biased fraction : Nat) : Binary64 :=
  ⟨UInt64.ofNat ((if sign then Nat.pow 2 63 else 0) + biased % Nat.pow 2 11 * Nat.pow 2 52 +
    fraction % Nat.pow 2 52)⟩

/-- Zero of the given sign. -/
def zero (sign : Bool) : Binary64 := ofFields sign 0 0

/-- Infinity of the given sign. -/
def infinity (sign : Bool) : Binary64 := ofFields sign 2047 0

/-- The quiet NaN that arithmetic produces. -/
def nan : Binary64 := ofFields false 2047 (Nat.pow 2 51)

/-- The same magnitude with the other sign. -/
def neg (x : Binary64) : Binary64 := ofFields (!x.sign) x.biasedExponent x.fraction

/-- Whether `num / den ≥ 2 ^ k`. -/
def ratioAtLeastPow2 (num den : Nat) (k : Int) : Bool :=
  if 0 ≤ k then den * Nat.pow 2 k.toNat ≤ num else den ≤ num * Nat.pow 2 (-k).toNat

/-- `⌊log₂ (num / den)⌋` for positive `num` and `den`: the bit lengths give it up to one. -/
def floorLog2Ratio (num den : Nat) : Int :=
  let k : Int := (num.log2 : Int) - den.log2
  if ratioAtLeastPow2 num den k then k else k - 1

/-- `num / den · 2 ^ e` as the quotient and remainder of one natural division, so that the
quotient is `⌊num / den · 2 ^ e⌋`. -/
def scaledDivision (num den : Nat) (e : Int) : Nat × Nat :=
  let a := if 0 ≤ e then num * Nat.pow 2 e.toNat else num
  let b := if 0 ≤ e then den else den * Nat.pow 2 (-e).toNat
  (a / b, a % b)

/-- Rounds `num / den · 2 ^ e` to the nearest pattern of the given sign (ties to an even
significand); magnitudes from `2 ^ 1024` on become infinity. `den` must be positive. -/
def round (sign : Bool) (num den : Nat) (e : Int) : Binary64 :=
  if num = 0 ∨ den = 0 then zero sign
  else
    let num' := if 0 ≤ e then num * Nat.pow 2 e.toNat else num
    let den' := if 0 ≤ e then den else den * Nat.pow 2 (-e).toNat
    -- the scale that leaves 53 bits before the point, but never below the subnormal scale
    let scale : Int := max (floorLog2Ratio num' den' - 52) (-1074)
    let (q, r) := scaledDivision num' den' (-scale)
    let divisor := if 0 ≤ -scale then den' else den' * Nat.pow 2 scale.toNat
    let up := divisor < 2 * r || (2 * r == divisor && q % 2 == 1)
    let q := if up then q + 1 else q
    let (q, scale) := if q = Nat.pow 2 53 then (Nat.pow 2 52, scale + 1) else (q, scale)
    if q < Nat.pow 2 52 then ofFields sign 0 q
    else
      let biased := scale + 1075
      if 2047 ≤ biased then infinity sign else ofFields sign biased.toNat (q - Nat.pow 2 52)

/-- The pattern nearest to a natural number. -/
def ofNat (n : Nat) : Binary64 := round false n 1 0

/-- `10 ^ n` rounded to the nearest pattern. -/
def pow10 (n : Nat) : Binary64 := round false (Nat.pow 10 n) 1 0

/-- The rounded product. -/
def mul (x y : Binary64) : Binary64 :=
  let s := x.sign != y.sign
  if x.isNaN || y.isNaN then nan
  else if x.isInfinite || y.isInfinite then
    if x.isZero || y.isZero then nan else infinity s
  else round s (x.significand * y.significand) 1 (x.exponent + y.exponent)

/-- The rounded quotient. -/
def div (x y : Binary64) : Binary64 :=
  let s := x.sign != y.sign
  if x.isNaN || y.isNaN then nan
  else if x.isInfinite then (if y.isInfinite then nan else infinity s)
  else if y.isInfinite then zero s
  else if y.isZero then (if x.isZero then nan else infinity s)
  else round s x.significand y.significand (x.exponent - y.exponent)

/-- The value of a finite number as an integer multiple of `2 ^ e`, for an exponent `e` at
most its own. -/
def scaledInt (x : Binary64) (e : Int) : Int :=
  let m : Int := x.significand * Nat.pow 2 (x.exponent - e).toNat
  if x.sign then -m else m

/-- The rounded sum. An exact zero sum of two numbers of different signs is positive. -/
def add (x y : Binary64) : Binary64 :=
  if x.isNaN || y.isNaN then nan
  else if x.isInfinite then (if y.isInfinite && x.sign != y.sign then nan else x)
  else if y.isInfinite then y
  else
    let e := min x.exponent y.exponent
    let s := x.scaledInt e + y.scaledInt e
    if s = 0 then zero (x.sign && y.sign)
    else round (decide (s < 0)) s.natAbs 1 e

/-- Whether `x` is below `y`; never when either is a NaN, and not between the two zeros. -/
def lt (x y : Binary64) : Bool :=
  if x.isNaN || y.isNaN then false
  else if x.isInfinite then x.sign && !(y.isInfinite && y.sign)
  else if y.isInfinite then !y.sign
  else
    let e := min x.exponent y.exponent
    decide (x.scaledInt e < y.scaledInt e)

instance : Add Binary64 := ⟨add⟩
instance : Mul Binary64 := ⟨mul⟩
instance : Div Binary64 := ⟨div⟩
instance : Neg Binary64 := ⟨neg⟩

end Binary64

end SchemaNorm
