import SchemaNorm.Json.Value

/-!
How the data format reads a number literal.

An integer literal that fits 64 bits stays exact: a natural number below `2 ^ 64`, or a
negative integer down to `-2 ^ 63`. Everything else becomes a double, computed the fast way
rather than the exactly rounded way: the significant digits are collected into a 64-bit
significand (digits that no longer fit are dropped, integer ones raising the exponent), the
significand is rounded to a double, and the result is multiplied or divided by the rounded
power of ten, one rounding per step. A product that reaches infinity is out of range; `-0`
is the double `-0.0`.
-/

namespace SchemaNorm

/-- A number as the data format holds it after reading. -/
inductive Number where
  /-- A natural number below `2 ^ 64`. -/
  | nat (n : Nat)
  /-- A negative integer, at least `-2 ^ 63`. -/
  | negInt (i : Int)
  /-- A double. -/
  | float (x : Binary64)
  deriving DecidableEq, Repr

namespace Number

/-- The largest 64-bit significand. -/
def significandLimit : Nat := Nat.pow 2 64 - 1

/-- The largest exponent that is collected before the exponent counts as overflowing. -/
def exponentLimit : Nat := Nat.pow 2 31 - 1

/-- Exponents are kept within 32-bit signed range, sticking at its ends. -/
def clampExponent (e : Int) : Int := max (-(Int.pow 2 31)) (min (Int.pow 2 31 - 1) e)

/-- The value of an ASCII digit. -/
def digitValue (c : Char) : Nat := c.toNat - '0'.toNat

/-- `f · 10 ^ e` one rounding at a time: within the table of powers up to `10 ^ 308` one
product or quotient; beyond it, quotients by `10 ^ 308` until the exponent fits or the value
has become zero. `none` when a product overflows or a large exponent meets a nonzero value. -/
def scale (f : Binary64) (e : Int) : Option Binary64 :=
  if e.natAbs ≤ 308 then
    if 0 ≤ e then
      let g := f * Binary64.pow10 e.toNat
      if g.isInfinite then none else some g
    else some (f / Binary64.pow10 e.natAbs)
  else if f.isZero then some f
  else if 0 ≤ e then none
  else scale (f / Binary64.pow10 308) (e + 308)
termination_by e.natAbs
decreasing_by omega

/-- The double for significand `sig` and decimal exponent `e`, negated when `negative`. -/
def fromParts (negative : Bool) (sig : Nat) (e : Int) : Option Binary64 :=
  (scale (Binary64.ofNat sig) e).map fun f => if negative then -f else f

/-- Exponent digits after the first; `e` is the exponent collected so far. -/
def exponentDigits (negative : Bool) (sig : Nat) (start : Int) (positive : Bool) (e : Nat) :
    List Char → Option Binary64
  | c :: rest =>
    if c.isDigit then
      let e' := e * 10 + digitValue c
      if exponentLimit < e' then
        -- an exponent this large means infinity, refused, or zero
        if sig ≠ 0 ∧ positive then none else some (Binary64.zero negative)
      else exponentDigits negative sig start positive e' rest
    else none
  | [] => fromParts negative sig (clampExponent (if positive then start + e else start - e))

/-- The exponent part after `e` or `E`: an optional sign and at least one digit. -/
def exponentPart (negative : Bool) (sig : Nat) (start : Int) (cs : List Char) :
    Option Binary64 :=
  let (positive, cs) := match cs with
    | '+' :: r => (true, r)
    | '-' :: r => (false, r)
    | r => (true, r)
  match cs with
  | c :: rest => if c.isDigit then exponentDigits negative sig start positive (digitValue c) rest
                 else none
  | [] => none

/-- What may follow the digits of a significand: an exponent part or the end. -/
def afterDigits (negative : Bool) (sig : Nat) (e : Int) : List Char → Option Binary64
  | c :: rest => if c = 'e' ∨ c = 'E' then exponentPart negative sig e rest else none
  | [] => fromParts negative sig e

/-- Fraction digits; `count` of them have been collected so far. A digit that would overflow
the significand ends the collection, and the digits after it are skipped. -/
def fractionDigits (negative : Bool) (sig : Nat) (e : Int) (count : Nat) :
    List Char → Option Binary64
  | c :: rest =>
    if c.isDigit then
      let sig' := sig * 10 + digitValue c
      if significandLimit < sig' then afterDigits negative sig e (rest.dropWhile Char.isDigit)
      else fractionDigits negative sig' (e - 1) (count + 1) rest
    else if count = 0 then none
    else afterDigits negative sig e (c :: rest)
  | [] => if count = 0 then none else fromParts negative sig e

/-- Integer digits that no longer fit the significand: each raises the exponent. -/
def longIntegerDigits (negative : Bool) (sig : Nat) (e : Int) : List Char → Option Binary64
  | c :: rest =>
    if c.isDigit then longIntegerDigits negative sig (e + 1) rest
    else if c = '.' then fractionDigits negative sig e 0 rest
    else if c = 'e' ∨ c = 'E' then exponentPart negative sig e rest
    else none
  | [] => fromParts negative sig e

/-- A negative integer literal with magnitude `sig`: exact down to `-2 ^ 63`, a double below
that, and `-0.0` for zero. -/
def negativeInteger (sig : Nat) : Number :=
  if 0 < sig ∧ sig ≤ Nat.pow 2 63 then .negInt (-(sig : Int))
  else .float (-(Binary64.ofNat sig))

/-- What may follow the integer digits: a fraction, an exponent, or the end. -/
def afterInteger (negative : Bool) (sig : Nat) : List Char → Option Number
  | '.' :: rest => (fractionDigits negative sig 0 0 rest).map .float
  | c :: rest =>
    if c = 'e' ∨ c = 'E' then (exponentPart negative sig 0 rest).map .float else none
  | [] => some (if negative then negativeInteger sig else .nat sig)

/-- Integer digits after a nonzero first one. -/
def integerDigits (negative : Bool) (sig : Nat) : List Char → Option Number
  | c :: rest =>
    if c.isDigit then
      let sig' := sig * 10 + digitValue c
      if significandLimit < sig' then (longIntegerDigits negative sig 0 (c :: rest)).map .float
      else integerDigits negative sig' rest
    else afterInteger negative sig (c :: rest)
  | [] => afterInteger negative sig []

/-- Reads an unsigned literal. -/
def ofDigits (negative : Bool) : List Char → Option Number
  | '0' :: rest => afterInteger negative 0 rest
  | c :: rest => if c.isDigit then integerDigits negative (digitValue c) rest else none
  | [] => none

/-- Reads a JSON number literal; `none` when it is out of range (or not a literal). -/
def ofLiteral? (s : String) : Option Number :=
  match s.toList with
  | '-' :: rest => ofDigits true rest
  | cs => ofDigits false cs

/-- The number as a double, as a floating-point field reads it. -/
def toBinary64 : Number → Binary64
  | .nat n => Binary64.ofNat n
  | .negInt i => -(Binary64.ofNat i.natAbs)
  | .float x => x

/-- The number as a JSON value. -/
def toJson : Number → Json
  | .nat n => Json.ofNat n
  | .negInt i => Json.ofInt i
  | .float x => Json.ofBinary64 x

end Number

end SchemaNorm
