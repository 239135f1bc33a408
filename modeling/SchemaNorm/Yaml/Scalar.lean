import SchemaNorm.Yaml.Node
import SchemaNorm.Datum
import SchemaNorm.Text.Base64

/-!
What YAML nodes mean as self-describing data. A plain scalar's type is read off its text, in
this order:

* null: the empty scalar, `~`, or `null` in any letter case;
* Boolean: `true`, `false`, `yes`, `no`, `y`, `n`, `on` or `off` in any letter case;
* integer: an optional sign, then digits in base 10, or after `0x`, `0o` or `0b` (in either
  case) in base 16, 8 or 2. Underscores anywhere after the sign are skipped, and the digits may
  carry one `+` of their own. A non-negative integer must be below `2 ^ 64`, a negative one at
  least `-2 ^ 63`;
* double: decimal digits with an optional point and exponent (at least one digit before or
  after the point), or `inf`, `infinity`, `nan`, `.inf` or `.nan` in any letter case, each
  with an optional sign. A double that is not finite stands for the text `.inf`, `-.inf` or
  `.nan`;
* string: any other text.

Quoted and block scalars are strings. A scalar tagged `!!null` is null, one tagged `!!binary`
is the text its base64 encoding stands for, and one with a refused tag has no meaning, which
makes everything around it unreadable.

Mapping keys become field keys: a string names a field, a non-negative integer gives its
position, and any other key names none.
-/

namespace SchemaNorm

namespace Binary64

/-- The double nearest to `digits · 10 ^ e`, negated when `negative`. Values far outside the
range of doubles go straight to infinity or zero, so no huge power is ever computed. -/
def nearestDecimal (negative : Bool) (digits : Nat) (e : Int) : Binary64 :=
  if digits = 0 then zero negative
  else
    let width : Int := (Nat.repr digits).length
    if 310 < width + e then infinity negative
    else if width + e < -400 then zero negative
    else if 0 ≤ e then round negative (digits * Nat.pow 10 e.toNat) 1 0
    else round negative digits (Nat.pow 10 e.natAbs) 0

end Binary64

namespace Yaml

/-- Whether a plain scalar is one of the words for null (or empty). -/
def isNullWord (t : String) : Bool :=
  t = "" || t = "~" || t.toLower = "null"

/-- The Boolean a plain scalar spells, if any. -/
def boolWord? (t : String) : Option Bool :=
  let w := t.toLower
  if w = "true" || w = "yes" || w = "y" || w = "on" then some true
  else if w = "false" || w = "no" || w = "n" || w = "off" then some false
  else none

/-- The value of a digit in base `base`, if it is one. -/
def digitIn? (base : Nat) (c : Char) : Option Nat :=
  let v := if '0' ≤ c ∧ c ≤ '9' then c.toNat - '0'.toNat
    else if 'a' ≤ c ∧ c ≤ 'z' then c.toNat - 'a'.toNat + 10
    else if 'A' ≤ c ∧ c ≤ 'Z' then c.toNat - 'A'.toNat + 10
    else base
  if v < base then some v else none

/-- The value of a non-empty run of digits in base `base`. -/
def digitsIn? (base : Nat) (cs : List Char) : Option Nat :=
  if cs.isEmpty then none
  else cs.foldlM (fun acc c => (digitIn? base c).map fun d => acc * base + d) 0

/-- An optional sign: whether it is a minus, and the rest. -/
def splitSign : List Char → Bool × List Char
  | '-' :: rest => (true, rest)
  | '+' :: rest => (false, rest)
  | cs => (false, cs)

/-- The base an integer's digits are written in, from its prefix, and the digits. -/
def radixDigits : List Char → Nat × List Char
  | '0' :: 'x' :: ds | '0' :: 'X' :: ds => (16, ds)
  | '0' :: 'o' :: ds | '0' :: 'O' :: ds => (8, ds)
  | '0' :: 'b' :: ds | '0' :: 'B' :: ds => (2, ds)
  | ds => (10, ds)

/-- The value of digits in `base` that may start with one `+`. -/
def unsignedDigits? (base : Nat) : List Char → Option Nat
  | '+' :: ds => digitsIn? base ds
  | ds => digitsIn? base ds

/-- The integer a plain scalar spells, when it fits 64 bits: a non-negative one as a natural
number, a negative one (or one written with a minus) as a negative integer. -/
def intWord? (t : String) : Option Number :=
  let (negative, body) := splitSign t.toList
  let (base, ds) := radixDigits (body.filter (· != '_'))
  match unsignedDigits? base ds with
  | some n =>
    if negative then (if n ≤ Nat.pow 2 63 then some (.negInt (-(n : Int))) else none)
    else if n < Nat.pow 2 64 then some (.nat n) else none
  | none => none

/-- The double a decimal literal spells: digits with an optional point and exponent, at least
one digit before or after the point. -/
def decimalWord? (negative : Bool) (body : List Char) : Option Binary64 :=
  let whole := body.takeWhile Char.isDigit
  let afterWhole := body.drop whole.length
  let (fraction, rest) := match afterWhole with
    | '.' :: more =>
      let f := more.takeWhile Char.isDigit
      (f, more.drop f.length)
    | _ => ([], afterWhole)
  let exponent? : Option Int := match rest with
    | [] => some 0
    | 'e' :: ex | 'E' :: ex =>
      let (minus, ds) := splitSign ex
      (digitsIn? 10 ds).map fun n => if minus then -(n : Int) else n
    | _ => none
  if whole.isEmpty && fraction.isEmpty then none
  else exponent?.map fun e =>
    Binary64.nearestDecimal negative ((digitsIn? 10 (whole ++ fraction)).getD 0)
      (e - fraction.length)

/-- The double a plain scalar spells: a decimal literal, or an infinity or not-a-number word,
with an optional sign. -/
def floatWord? (t : String) : Option Binary64 :=
  let (negative, body) := splitSign t.toList
  let word := (String.ofList body).toLower
  if word = "inf" || word = "infinity" || word = ".inf" then some (Binary64.infinity negative)
  else if word = "nan" || word = ".nan" then some Binary64.nan
  else decimalWord? negative body

/-- The datum a double stands for: a finite one is a number, the others are texts. -/
def floatDatum (x : Binary64) : Datum :=
  if x.isNaN then .str ".nan"
  else if x.isInfinite then .str (if x.sign then "-.inf" else ".inf")
  else .num (.float x)

/-- The datum a plain scalar stands for. -/
def plainDatum (t : String) : Datum :=
  if isNullWord t then .null
  else match boolWord? t with
    | some b => .bool b
    | none =>
      match intWord? t with
      | some n => .num n
      | none =>
        match floatWord? t with
        | some x => floatDatum x
        | none => .str t

/-- The datum a scalar stands for, from its tag, its style and its text. -/
def scalarDatum? (tag : Tag) (plain : Bool) (t : String) : Option Datum :=
  match tag with
  | .none => some (if plain then plainDatum t else .str t)
  | .null => some .null
  | .binary => (Base64.decodeText? t).map .str
  | .refused => none

/-- The field key a mapping key stands for. -/
def fieldKeyOf : Datum → FieldKey
  | .str s => .name s
  | .num (.nat n) => .position n
  | _ => .other

namespace Node

mutual

/-- The datum a node stands for; `none` when some scalar in it has no meaning. -/
def toDatum? : Node → Option Datum
  | .scalar tag plain t => scalarDatum? tag plain t
  | .seq items => (itemsToDatum? items).map .seq
  | .map entries => (entriesToDatum? entries).map .map

/-- The data of sequence items. -/
def itemsToDatum? : List Node → Option (List Datum)
  | [] => some []
  | n :: ns => do
    let d ← toDatum? n
    let ds ← itemsToDatum? ns
    pure (d :: ds)

/-- The data of mapping entries, keyed by what their keys stand for. -/
def entriesToDatum? : List (Node × Node) → Option (List (FieldKey × Datum))
  | [] => some []
  | (k, v) :: es => do
    let key ← toDatum? k
    let d ← toDatum? v
    let ds ← entriesToDatum? es
    pure ((fieldKeyOf key, d) :: ds)

end

/-- The field key a mapping key node stands for. -/
def fieldKey? (k : Node) : Option FieldKey := k.toDatum?.map fieldKeyOf

end Node

end Yaml

end SchemaNorm
