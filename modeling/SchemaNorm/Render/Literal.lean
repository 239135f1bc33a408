/-!
String literals in generated text: the value between double quotes, with a backslash before
every backslash and double quote in it. Lists of literals are separated by a comma and a
space.
-/

namespace SchemaNorm

namespace Render

/-- The escaped characters of a literal's body. -/
def escapeChar (c : Char) : List Char := if c = '\\' ∨ c = '"' then ['\\', c] else [c]

/-- A double-quoted literal for a string. -/
def quote (s : String) : String := String.ofList ('"' :: s.toList.flatMap escapeChar ++ ['"'])

/-- Literals separated by `", "`. -/
def quotedList (values : List String) : String := ", ".intercalate (values.map quote)

/-- Lines, each ended by a line feed. -/
def unlines (lines : List String) : String := lines.foldl (fun acc l => acc ++ l ++ "\n") ""

end Render

end SchemaNorm
