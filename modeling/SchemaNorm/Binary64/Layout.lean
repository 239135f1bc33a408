import SchemaNorm.Binary64.Shortest

/-!
Writing a binary64 number as text from its shortest decimal. Two layouts are in use: the
data format writes exponents for very large and very small magnitudes and keeps a `.0` on
integral values, while generated schema text writes every value positionally and bare.
-/

namespace SchemaNorm

namespace Binary64

/-- How the digits of a shortest decimal are laid out. The decimal point position counts the
digits before the point (`1.5` has position 1, `0.05` has position -1). -/
structure Layout where
  /-- The point positions `p` with `lo < p ≤ hi` are written without an exponent; `none`
  writes every position so. -/
  positional : Option (Int × Int)
  /-- An integral value written without an exponent keeps a `.0`. -/
  pointZero : Bool
  /-- A positive exponent is written with a `+`. -/
  plusExponent : Bool
  deriving Repr

/-- The data format's layout: positional for point positions from -4 to 16, an exponent
such as `1e+21` or `1.5e-7` beyond, and `.0` after integral values. -/
def Layout.data : Layout := ⟨some (-5, 16), true, true⟩

/-- The layout of generated text: always positional, nothing after an integral value. -/
def Layout.plain : Layout := ⟨none, false, false⟩

/-- `n` zero characters. -/
def zeros (n : Nat) : String := String.ofList (List.replicate n '0')

/-- The digits `s` with the decimal point at position `p`, without an exponent. -/
def placePoint (s : String) (p : Int) (pointZero : Bool) : String :=
  let n : Int := s.length
  if n ≤ p then s ++ zeros (p - n).toNat ++ (if pointZero then ".0" else "")
  else if 0 < p then String.ofList (s.toList.take p.toNat) ++ "." ++ String.ofList (s.toList.drop p.toNat)
  else "0." ++ zeros (-p).toNat ++ s

/-- The digits `s` as one digit, the rest after a point, and the exponent of the first. -/
def withExponent (s : String) (p : Int) (plus : Bool) : String :=
  let mantissa := match s.toList with
    | [] => "0"
    | [d] => String.singleton d
    | d :: rest => String.singleton d ++ "." ++ String.ofList rest
  mantissa ++ "e" ++ (if plus ∧ 0 < p - 1 then "+" else "") ++ toString (p - 1)

/-- The text of a finite number in the given layout, a minus sign first when the sign bit is
set (also for `-0.0`). -/
def layoutFinite (layout : Layout) (x : Binary64) : String :=
  let signText := if x.sign then "-" else ""
  let d := x.shortest
  if d.digits = 0 then signText ++ (if layout.pointZero then "0.0" else "0")
  else
    let s := Nat.repr d.digits
    let p : Int := s.length + d.exponent
    let positional := match layout.positional with
      | none => true
      | some (lo, hi) => lo < p ∧ p ≤ hi
    signText ++ (if positional then placePoint s p layout.pointZero else withExponent s p layout.plusExponent)

/-- Generated text: positional digits for finite numbers, `NaN`, `inf` and `-inf` otherwise. -/
def toPlainString (x : Binary64) : String :=
  if x.isNaN then "NaN"
  else if x.isInfinite then (if x.sign then "-inf" else "inf")
  else layoutFinite Layout.plain x

end Binary64

end SchemaNorm
