import SchemaNorm.Schema
import SchemaNorm.Render.Literal

/-!
TypeScript type definitions of a normalized schema: a fixed prelude of helper types, then one
type per enum and per model in schema order (a model lists its columns and its outbound
one-row relations), then the maps of all models and all enums.
-/

namespace SchemaNorm

namespace TypeDefs

/-- The helper types every output starts with. -/
def prelude : String :=
  Render.unlines [
  "export type __ColumnType =",
  "    | \"enum\"",
  "    | \"boolean\"",
  "    | \"text\"",
  "    | \"varchar\"",
  "    | \"date\"",
  "    | \"datetime\"",
  "    | \"int\"",
  "    | \"bigint\"",
  "    | \"json\"",
  "    | \"bytea\"",
  "    | \"decimal\";",
  "",
  "export type __Column = \x7b",
  "    alias: string;",
  "    name: string;",
  "    type: __ColumnType;",
  "    isNullable: boolean;",
  "    isHasDefault: boolean;",
  "    isPrimary: boolean;",
  "    isUnique: boolean;",
  "    enumName?: string;",
  "\x7d;",
  "",
  "export type __Enum = \x7b",
  "    name: string;",
  "    values: string[];",
  "\x7d;",
  "",
  "export type __One = \x7b",
  "    type: \"one\";",
  "    kind: \"in\" | \"out\";",
  "    source: __Model;",
  "    reference: __Model;",
  "    sourceFields: string[];",
  "    referenceFields: string[];",
  "\x7d;",
  "",
  "export type __Many = \x7b",
  "    type: \"many\";",
  "    source: __Model;",
  "    reference: __Model;",
  "\x7d;",
  "",
  "export type __Relation<O extends __One | __Many> = O;",
  "",
  "export type __Model = \x7b",
  "    name: string;",
  "    columns: Record<string, __Column>;",
  "    relations: Record<string, __Relation<any>>;",
  "    indexes: Record<string, string>;",
  "\x7d;",
  "",
  "export type __CreateColumn<O extends __Column> = O;",
  "export type __CreateEnum<O extends __Enum> = O;",
  "export type __CreateOne<O extends __One> = O;",
  "export type __CreateMany<O extends __Many> = O;",
  "export type __CreateRelation<O extends __One | __Many> = O;",
  "export type __CreateModel<O extends __Model> = O;",
  "",
  "export type __AllEntriesSetup = \x7b",
  "    models: Record<string, __Model>;",
  "    enums: Record<string, __Enum>;",
  "\x7d;"]

/-- The type of an enum. -/
def enumType (e : Enumeration) : String :=
  "export type " ++ e.aliasName ++ " = __CreateEnum<\x7b\n    name: " ++ Render.quote e.canonicalName ++
    ";\n    values: [" ++ Render.quotedList e.values ++ "];\n\x7d>;\n"

/-- The entry of a column. -/
def columnEntry (c : Column) : String :=
  "\n".intercalate [
    "        " ++ c.aliasName ++ ": __CreateColumn<\x7b",
    "            alias: " ++ Render.quote c.aliasName ++ ";",
    "            name: " ++ Render.quote c.canonicalName ++ ";",
    "            type: \"" ++ c.type.tag ++ "\";",
    "            isNullable: " ++ toString c.isNullable ++ ";",
    "            isHasDefault: " ++ toString c.hasDefault ++ ";",
    "            isPrimary: " ++ toString c.isPrimary ++ ";",
    "            isUnique: " ++ toString c.isUnique ++ ";",
    "            enumName: " ++ (c.enumName.map Render.quote).getD "undefined" ++ ";",
    "        \x7d>;"]

/-- The entry of a one-row relation. -/
def relationEntry (r : OneRelation) : String :=
  "\n".intercalate [
    "        " ++ r.aliasName ++ ": __CreateRelation<\x7b",
    "            type: \"one\";",
    "            kind: \"" ++ r.direction.tag ++ "\";",
    "            source: " ++ r.sourceModel ++ ";",
    "            reference: " ++ r.referenceModel ++ ";",
    "            sourceFields: [" ++ Render.quotedList r.sourceFields ++ "];",
    "            referenceFields: [" ++ Render.quotedList r.referenceFields ++ "];",
    "        \x7d>;"]

/-- A named member holding entries, `name: \x7b\x7d;` when there are none. -/
def block (name : String) (entries : List String) : String :=
  if entries.isEmpty then "    " ++ name ++ ": \x7b\x7d;\n"
  else "    " ++ name ++ ": \x7b\n" ++ "\n".intercalate entries ++ "\n    \x7d;\n"

/-- A named type literal holding entries. -/
def typeLiteral (name : String) (entries : List String) : String :=
  if entries.isEmpty then "export type " ++ name ++ " = \x7b\x7d;\n"
  else "export type " ++ name ++ " = \x7b\n" ++ "\n".intercalate entries ++ "\n\x7d;\n"

/-- The type of a model. -/
def modelType (m : Model) : String :=
  let relations := (m.relationsIn .outbound).filterMap fun
    | .one r => some (relationEntry r)
    | .many _ => none
  "export type " ++ m.canonicalName ++ " = __CreateModel<\x7b\n" ++
    "    name: " ++ Render.quote m.canonicalName ++ ";\n" ++
    block "columns" (m.columns.map columnEntry) ++
    block "relations" relations ++
    "    indexes: \x7b\x7d;\n" ++
    "\x7d>;\n"

/-- The type definitions of a schema. -/
def render (s : Schema) : String :=
  prelude ++
    s.enums.foldl (fun acc e => acc ++ "\n" ++ enumType e) "" ++
    s.models.foldl (fun acc m => acc ++ "\n" ++ modelType m) "" ++
    "\n" ++ typeLiteral "__AllModels" (s.models.map fun m =>
      "    " ++ m.canonicalName ++ ": " ++ m.canonicalName ++ ";") ++
    "\n" ++ typeLiteral "__AllEnums" (s.enums.map fun e =>
      "    " ++ e.canonicalName ++ ": " ++ e.aliasName ++ ";") ++
    "\nexport type __AllEntries = \x7b\n    models: __AllModels;\n    enums: __AllEnums;\n\x7d;\n"

end TypeDefs

end SchemaNorm
