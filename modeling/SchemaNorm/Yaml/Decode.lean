import SchemaNorm.Yaml.Scalar

/-!
Reading YAML nodes by the shape a setting expects, rather than by what they say of
themselves. A text setting takes any scalar's text as written (`version: 1.0` is the text
`1.0`), but not a plain null word; an optional setting is absent for a plain null word or a
`!!null` tag; a record is a mapping keyed by the keys' text, and null gives a record of
defaults; a list is a sequence, and null gives the empty list; a variant without data is its
name, or a mapping from its name to null.
-/

namespace SchemaNorm

namespace Yaml

namespace Node

/-- Whether a node stands for null where a setting is read: a plain null word without a tag
that changes it, or a scalar tagged `!!null`. -/
def isNullish : Node → Bool
  | .scalar .none true t => isNullWord t
  | .scalar .null _ _ => true
  | _ => false

/-- The text of a scalar read as text: its text as written, or the text its `!!binary`
encoding stands for. A null, a collection and a refused tag have none. -/
def text? : Node → Option String
  | .scalar .none plain t => if plain && isNullWord t then none else some t
  | .scalar .binary _ t => Base64.decodeText? t
  | _ => none

/-- An optional text: none for null. -/
def optionalText? (n : Node) : Option (Option String) :=
  if n.isNullish then some none else n.text?.map some

/-- The entries of a record, keyed by the keys' text; null gives none at all. -/
def fields? : Node → Option (List (String × Node))
  | .map entries => entries.mapM fun (k, v) => k.text?.map (·, v)
  | n => if n.isNullish then some [] else none

/-- The items of a list; null gives none. -/
def items? : Node → Option (List Node)
  | .seq items => some items
  | n => if n.isNullish then some [] else none

/-- The name of a variant without data: a text, or a mapping of one entry from the name to
null. -/
def variantName? : Node → Option String
  | .map [(k, v)] => if v.isNullish then k.text? else none
  | n => n.text?

end Node

/-- A record's entries with the setting readers that fill it. -/
structure Fields where
  entries : List (String × Node)

namespace Fields

/-- The fields of a node read as a record. -/
def of? (n : Node) : Option Fields := n.fields?.map Fields.mk

/-- A setting that must be given. -/
def required {α : Type} (f : Fields) (name : String) (dec : Node → Option α) : Option α :=
  f.entries.lookup name >>= dec

/-- A setting that takes `default` when missing. -/
def withDefault {α : Type} (f : Fields) (name : String) (dec : Node → Option α)
    (default : α) : Option α :=
  match f.entries.lookup name with
  | some n => dec n
  | none => some default

end Fields

end Yaml

end SchemaNorm
