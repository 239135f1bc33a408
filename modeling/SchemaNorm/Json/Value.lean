import SchemaNorm.Binary64.Layout

/-!
JSON values. A number is kept as its literal text, because how a literal is read (exact
integer, rounded double, or out of range) depends on how it is written, not only on its
value; `SchemaNorm.Number` reads it. Objects keep their members in order, repeated names
included, since a repeated field is an error the decoders must see.

A string whose escapes name an unpaired surrogate is well-formed JSON but no Unicode text. It
is kept as a value of its own: a member that is skipped may hold one, while any decoder that
needs the text refuses it.
-/

namespace SchemaNorm

/-- A JSON value; a number holds a literal in the JSON number grammar. -/
inductive Json where
  | null
  | bool (b : Bool)
  | num (literal : String)
  | str (s : String)
  /-- A string with an unpaired surrogate escape, which has no text. -/
  | unpairedStr
  | arr (items : List Json)
  | obj (fields : List (String × Json))
  deriving Repr, Inhabited

namespace Json

/-- A string read from text: the string, or `unpairedStr` when it has no text. -/
def ofText? : Option String → Json
  | some s => .str s
  | none => .unpairedStr

/-- A natural number, written in decimal. -/
def ofNat (n : Nat) : Json := .num (Nat.repr n)

/-- An integer, written in decimal with a leading minus when negative. -/
def ofInt (i : Int) : Json := .num (toString i)

/-- A double in the data layout (`1.0`, `1e+21`, `5e-324`); infinities and NaN have no JSON
number and are written as `null`. -/
def ofBinary64 (x : Binary64) : Json :=
  if x.isFinite then .num (Binary64.layoutFinite Binary64.Layout.data x) else .null

/-- An optional value, `null` when absent. -/
def ofOption {α : Type} (f : α → Json) : Option α → Json
  | some a => f a
  | none => .null

/-- A list of strings. -/
def ofStrings (xs : List String) : Json := .arr (xs.map .str)

/-- The value of the first member with the given name. -/
def field? (j : Json) (name : String) : Option Json :=
  match j with
  | .obj fields => fields.lookup name
  | _ => none

end Json

end SchemaNorm
