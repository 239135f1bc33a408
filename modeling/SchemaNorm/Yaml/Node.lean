/-!
YAML documents as node trees. A scalar remembers whether it was written plain, because only a
plain scalar's type (null, Boolean, number or string) is read off its text; quoted and block
scalars are always strings. It also keeps what its tag asks for: most tags, `!!str` among
them, change nothing, `!!null` makes the scalar null, `!!binary` makes it the text its base64
encoding stands for, and the other tags of the core schema (`!!int`, `!!float`, `!!bool`,
`!!timestamp`, ...) are refused wherever the scalar is read. Mappings keep their entries in
order. Aliases are already replaced by the nodes they name, and merge keys by the entries they
bring in.
-/

namespace SchemaNorm

namespace Yaml

/-- What a scalar's tag asks of it. -/
inductive Tag where
  /-- No tag, or one that changes nothing. -/
  | none
  /-- `!!null`: the scalar is null whatever its text. -/
  | null
  /-- `!!binary`: the scalar is the text of the bytes its base64 text encodes. -/
  | binary
  /-- Another tag of the core schema, which no reading accepts. -/
  | refused
  deriving DecidableEq, Repr, Inhabited

/-- A YAML node. -/
inductive Node where
  /-- A scalar: `plain` when written without quotes or block indicator. -/
  | scalar (tag : Tag) (plain : Bool) (text : String)
  | seq (items : List Node)
  | map (entries : List (Node × Node))
  deriving Repr, Inhabited

namespace Node

/-- The empty plain scalar, which a missing value stands for. -/
def empty : Node := .scalar .none true ""

/-- The text of a scalar node, used to compare keys. -/
def keyText? : Node → Option String
  | .scalar _ _ t => some t
  | _ => none

/-- The node with a tag applied: a scalar takes it, a collection ignores it. -/
def withTag (tag : Tag) : Node → Node
  | .scalar _ plain t => .scalar tag plain t
  | n => n

end Node

end Yaml

end SchemaNorm
