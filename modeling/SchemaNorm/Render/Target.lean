import SchemaNorm.Render.Prisma
import SchemaNorm.Render.TypeScript

/-!
What can be generated from a normalized schema: a Prisma schema or TypeScript type
definitions, named `prisma`, or `types` (also `typescript` and `ts`).
-/

namespace SchemaNorm

/-- A kind of generated output. -/
inductive Target where
  | prisma
  | types
  deriving DecidableEq, Repr, Inhabited

namespace Target

/-- The target a name gives, exactly as written. -/
def ofName? : String → Option Target
  | "prisma" => some .prisma
  | "types" | "typescript" | "ts" => some .types
  | _ => none

/-- Why a name gives no target. -/
def unsupportedMessage (value : String) : String :=
  "Unsupported generator target: " ++ value ++ ". Please specify one of: prisma, types."

/-- `prisma` or `types`. -/
def name : Target → String
  | .prisma => "prisma"
  | .types => "types"

/-- The file extension of the output. -/
def extension : Target → String
  | .prisma => "prisma"
  | .types => "ts"

/-- The output for a schema; only the Prisma schema uses a prelude, the default one when none
is given. -/
def render (t : Target) (prelude : Option String) (s : Schema) : String :=
  match t with
  | .prisma => Prisma.render (prelude.getD Prisma.defaultPrelude) s
  | .types => TypeDefs.render s

end Target

end SchemaNorm
