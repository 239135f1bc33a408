import SchemaNorm.Yaml.Node

/-!
Merge keys. A mapping entry whose key is a plain, untagged `<<` brings in the entries of the
mapping it maps to, or of each mapping of a sequence, in place of itself. An entry the mapping
gives itself always wins over a merged one, and an earlier merged mapping wins over a later
one, so every key stays unique. Merging works bottom-up: the merged mappings have their own
merge keys expanded first.
-/

namespace SchemaNorm

namespace Yaml

namespace Node

/-- Whether a key is the merge key: `<<` written plain and without a tag. -/
def isMergeKey : Node → Bool
  | .scalar .none true t => t = "<<"
  | _ => false

/-- Whether two keys are the same key: scalars with the same text. -/
def sameKey (a b : Node) : Bool :=
  match a.keyText?, b.keyText? with
  | some x, some y => x = y
  | _, _ => false

/-- The entries a merge value brings in: those of a mapping, or of each mapping of a sequence,
earlier mappings first. -/
def mergeSources : Node → Except String (List (List (Node × Node)))
  | .map entries => .ok [entries]
  | .seq items => items.mapM fun
    | .map entries => .ok entries
    | _ => .error "a merged sequence item is not a mapping"
  | _ => .error "a merge value is not a mapping"

/-- Adds merged entries after `acc`, leaving out keys that `own` or `acc` already give. -/
def addMerged (own acc entries : List (Node × Node)) : List (Node × Node) :=
  acc ++ entries.filter fun (k, _) =>
    !(own.any fun (o, _) => sameKey k o) && !(acc.any fun (a, _) => sameKey k a)

/-- A mapping's entries with each merge entry replaced by what it brings in. -/
def mergeEntries (entries : List (Node × Node)) : Except String (List (Node × Node)) :=
  let own := entries.filter fun (k, _) => !k.isMergeKey
  entries.foldlM (fun acc (k, v) =>
    if k.isMergeKey then do
      let sources ← mergeSources v
      pure (sources.foldl (addMerged own) acc)
    else pure (acc ++ [(k, v)])) []

mutual

/-- The node with every merge key in it expanded. -/
def expandMerges : Node → Except String Node
  | .scalar tag plain t => .ok (.scalar tag plain t)
  | .seq items => do
    let items ← expandItems items
    pure (.seq items)
  | .map entries => do
    let entries ← expandEntries entries
    let merged ← mergeEntries entries
    pure (.map merged)

/-- Sequence items with their merge keys expanded. -/
def expandItems : List Node → Except String (List Node)
  | [] => .ok []
  | n :: ns => do
    let n ← expandMerges n
    let ns ← expandItems ns
    pure (n :: ns)

/-- Mapping entries with the merge keys of their keys and values expanded. -/
def expandEntries : List (Node × Node) → Except String (List (Node × Node))
  | [] => .ok []
  | (k, v) :: es => do
    let k ← expandMerges k
    let v ← expandMerges v
    let es ← expandEntries es
    pure ((k, v) :: es)

end

end Node

end Yaml

end SchemaNorm
