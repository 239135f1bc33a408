import SchemaNorm.Json.Number

/-!
Self-describing values as the record decoders see them, whichever text format they came
from: numbers already read, maps as ordered members.

A record (a structure with named fields) is read from a map, or from a sequence that lists
its fields in declaration order. A map member names its field by name or, where the format
allows integer keys, by position in declaration order; a position past the last field, like an
unknown name, is skipped, and any other key is an error. A known field may appear once. A
field is then required, has a default when missing, or is optional (`null` or missing means
absent). From a sequence, only fields with a default may be left off the end, and no more items
than fields are allowed.

A value whose syntax was checked but which has no reading (a number out of every range, a
string without text) is `unreadable`: it may sit in a member that is skipped, and every
decoder refuses it.
-/

namespace SchemaNorm

/-- A map key as a record reads it: a field name, a field position (a non-negative integer
key), or a key that names no field. -/
inductive FieldKey where
  | name (s : String)
  | position (n : Nat)
  | other
  deriving DecidableEq, Repr, Inhabited

namespace FieldKey

/-- The name, when the key is one. -/
def name? : FieldKey → Option String
  | .name s => some s
  | _ => none

end FieldKey

/-- A decoded value: null, Boolean, number, string, sequence, map, or a value with no
reading. -/
inductive Datum where
  | null
  | bool (b : Bool)
  | num (n : Number)
  | str (s : String)
  | seq (items : List Datum)
  | map (entries : List (FieldKey × Datum))
  | unreadable
  deriving Repr, Inhabited

namespace Json

mutual

/-- The value with every number read; `none` when some number is out of range or some
string has no text. -/
def toDatum? : Json → Option Datum
  | .null => some .null
  | .bool b => some (.bool b)
  | .num literal => (Number.ofLiteral? literal).map .num
  | .str s => some (.str s)
  | .unpairedStr => none
  | .arr items => (itemsToDatum? items).map .seq
  | .obj fields => (fieldsToDatum? fields).map .map

/-- Items with every number read. -/
def itemsToDatum? : List Json → Option (List Datum)
  | [] => some []
  | j :: js => do
    let d ← toDatum? j
    let ds ← itemsToDatum? js
    pure (d :: ds)

/-- Members with every number read, keyed by name. -/
def fieldsToDatum? : List (String × Json) → Option (List (FieldKey × Datum))
  | [] => some []
  | (k, j) :: fs => do
    let d ← toDatum? j
    let ds ← fieldsToDatum? fs
    pure ((.name k, d) :: ds)

end

mutual

/-- The value with every number read that can be; a number out of range and a string without
text become `unreadable`, so that only a decoder that needs them fails. -/
def toDatumSkipping : Json → Datum
  | .null => .null
  | .bool b => .bool b
  | .num literal => ((Number.ofLiteral? literal).map .num).getD .unreadable
  | .str s => .str s
  | .unpairedStr => .unreadable
  | .arr items => .seq (itemsSkipping items)
  | .obj fields => .map (fieldsSkipping fields)

/-- Items read as far as they can be. -/
def itemsSkipping : List Json → List Datum
  | [] => []
  | j :: js => toDatumSkipping j :: itemsSkipping js

/-- Members read as far as they can be, keyed by name. -/
def fieldsSkipping : List (String × Json) → List (FieldKey × Datum)
  | [] => []
  | (k, j) :: fs => (.name k, toDatumSkipping j) :: fieldsSkipping fs

end

end Json

namespace Datum

/-- A string. -/
def asString? : Datum → Option String
  | .str s => some s
  | _ => none

/-- A Boolean. -/
def asBool? : Datum → Option Bool
  | .bool b => some b
  | _ => none

/-- A natural number below `2 ^ 32`. -/
def asU32? : Datum → Option Nat
  | .num (.nat n) => if n < Nat.pow 2 32 then some n else none
  | _ => none

/-- A sequence, each item decoded. -/
def asList? {α : Type} (item : Datum → Option α) : Datum → Option (List α)
  | .seq items => items.mapM item
  | _ => none

/-- A sequence of strings. -/
def asStrings? : Datum → Option (List String) := asList? asString?

/-- The name of a variant without data: its name as a string, or a map from its name to
`null`. -/
def variantName? : Datum → Option String
  | .str s => some s
  | .map [(.name s, .null)] => some s
  | _ => none

/-- `null` as absent, anything else decoded. -/
def asOption? {α : Type} (inner : Datum → Option α) : Datum → Option (Option α)
  | .null => some none
  | d => (inner d).map some

end Datum

/-- The fields given for one record: by name, or by position when read from a sequence. -/
structure Record where
  entries : List (String × Datum)
  positional : Bool

namespace Record

/-- Whether one of the known names occurs twice among the given member names. -/
def hasRepeat (known : List String) (names : List String) : Bool :=
  known.any fun name => 1 < names.count name

/-- The field a key names among the known field names: a name as itself, a position by
declaration order (`none` past the last field); `none` outside for a key naming no field. -/
def fieldOf? (known : List String) : FieldKey → Option (Option String)
  | .name s => some (some s)
  | .position n => some known[n]?
  | .other => none

/-- The fields of a record with the given field names, in declaration order. -/
def of? (known : List String) : Datum → Option Record
  | .map entries => do
    let named ← entries.mapM fun (k, d) => (fieldOf? known k).map fun f => (f, d)
    let entries := named.filterMap fun (f, d) => f.map (·, d)
    if hasRepeat known (entries.map (·.1)) then none else some ⟨entries, false⟩
  | .seq items =>
    if known.length < items.length then none else some ⟨known.zip items, true⟩
  | _ => none

/-- The value given for a field. -/
def get? (r : Record) (name : String) : Option Datum := r.entries.lookup name

/-- A field that must be given. -/
def required {α : Type} (r : Record) (name : String) (dec : Datum → Option α) : Option α :=
  (r.get? name).bind dec

/-- A field that takes `default` when missing (but not when `null`). -/
def withDefault {α : Type} (r : Record) (name : String) (dec : Datum → Option α) (default : α) :
    Option α :=
  match r.get? name with
  | some d => dec d
  | none => some default

/-- An optional field without a default: `null` or, in a map, missing means absent. -/
def optional {α : Type} (r : Record) (name : String) (dec : Datum → Option α) :
    Option (Option α) :=
  match r.get? name with
  | some d => Datum.asOption? dec d
  | none => if r.positional then none else some none

/-- An optional field with a default: `null` or missing means absent. -/
def optionalDefault {α : Type} (r : Record) (name : String) (dec : Datum → Option α) :
    Option (Option α) :=
  match r.get? name with
  | some d => Datum.asOption? dec d
  | none => some none

end Record

end SchemaNorm
