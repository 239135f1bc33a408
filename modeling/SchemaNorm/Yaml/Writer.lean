import SchemaNorm.Yaml.Scalar

/-!
Writing strings as YAML scalars, in the style that reads back as the same string:

* a string with line breaks is a literal block scalar (`|`), its chomping indicator keeping
  exactly its final line breaks: `-` for none, nothing for one, `+` for more;
* a one-line string longer than `foldWidth` with a space in it is a folded block scalar
  (`>-`), broken greedily at single spaces into lines of at most `foldWidth` characters;
* a string is plain when it is not empty, would not read as null, a Boolean or a number,
  starts with neither a blank nor an indicator character, holds none of `: # , [ ] { }`
  and no control character;
* any other string is double-quoted, with the named escapes of double-quoted scalars and
  `\xHH` for the other control characters.

A block scalar that would start with a blank, or that holds a control character other than
the line feed and the tab, is double-quoted instead. Lines of a block scalar are indented two
columns more than the key they belong to; empty lines carry no indentation.
-/

namespace SchemaNorm

namespace Yaml

/-- Characters that start YAML syntax when they come first. -/
def isIndicator (c : Char) : Bool :=
  "-?:,[]{}#&*!|>'\"%@".toList.contains c || c.toNat = 96

/-- Characters that plain text may not hold anywhere. -/
def isPlainBreaker (c : Char) : Bool := ":#,[]{}".toList.contains c

/-- Whether a character is a control character, which only a double-quoted scalar holds. -/
def isControl (c : Char) : Bool := c.toNat < 32 || (127 ≤ c.toNat && c.toNat < 160)

/-- Whether a plain scalar with this text would read as something other than a string. -/
def readsAsNonString (s : String) : Bool :=
  isNullWord s || (boolWord? s).isSome || (intWord? s).isSome || (floatWord? s).isSome

/-- Whether a string reads back unchanged when written plain. -/
def isPlainSafe (s : String) : Bool :=
  match s.toList with
  | [] => false
  | first :: _ =>
    !(first = ' ' || first = '\t') && !isIndicator first &&
      !s.toList.any (fun c => isPlainBreaker c || isControl c) && !readsAsNonString s

/-- Two hexadecimal digits, uppercase. -/
def hexByte (n : Nat) : String :=
  let digit (d : Nat) : Char := if d < 10 then Char.ofNat (48 + d) else Char.ofNat (55 + d)
  String.ofList [digit (n / 16 % 16), digit (n % 16)]

/-- A character inside a double-quoted scalar. -/
def escapeChar (c : Char) : String :=
  match c with
  | '"' => "\\\""
  | '\\' => "\\\\"
  | '\x00' => "\\0"
  | '\x07' => "\\a"
  | '\x08' => "\\b"
  | '\t' => "\\t"
  | '\n' => "\\n"
  | '\x0b' => "\\v"
  | '\x0c' => "\\f"
  | '\r' => "\\r"
  | '\x1b' => "\\e"
  | '\x85' => "\\N"
  | _ => if isControl c then "\\x" ++ hexByte c.toNat else String.singleton c

/-- A string as a double-quoted scalar. -/
def doubleQuoted (s : String) : String :=
  "\"" ++ String.join (s.toList.map escapeChar) ++ "\""

/-- The longest line a folded scalar is broken into. -/
def foldWidth : Nat := 80

/-- The pieces of a line between the spaces a folded scalar may break at: single spaces
between two other characters. -/
def foldPieces : List Char → List Char → List (List Char)
  | [], piece => [piece.reverse]
  | ' ' :: c :: rest, d :: piece =>
    if c ≠ ' ' && d ≠ ' ' then piece.reverse.concat d :: foldPieces (c :: rest) []
    else foldPieces (c :: rest) (' ' :: d :: piece)
  | c :: rest, piece => foldPieces rest (c :: piece)

/-- Packs pieces greedily into lines of at most `foldWidth` characters, rejoining the pieces
of a line with spaces; a piece longer than that stands on a line of its own. -/
def packLines : List (List Char) → List Char → List (List Char)
  | [], line => [line]
  | p :: ps, line =>
    if line.isEmpty then packLines ps p
    else if line.length + 1 + p.length ≤ foldWidth then packLines ps (line ++ ' ' :: p)
    else line :: packLines ps p

/-- Whether a string may be written as a block scalar: it does not start with a blank, and
its only control characters are line feeds and tabs. -/
def blockable (s : String) : Bool :=
  match s.toList with
  | ' ' :: _ | '\t' :: _ => false
  | cs => cs.all fun c => c = '\n' || c = '\t' || !isControl c

/-- Block scalar lines after the header, each on its own line and indented by `indent`
columns unless empty. -/
def blockBody (indent : Nat) (lines : List String) : String :=
  String.join (lines.map fun l =>
    "\n" ++ (if l.isEmpty then "" else String.ofList (List.replicate indent ' ') ++ l))

/-- A string with line breaks as a literal block scalar for a key at column `indent`. -/
def literalBlock (indent : Nat) (s : String) : String :=
  let cs := s.toList
  let trailing := (cs.reverse.takeWhile (· = '\n')).length
  let header := if trailing = 0 then "|-" else if trailing = 1 then "|" else "|+"
  let body := if trailing = 0 then cs else cs.take (cs.length - 1)
  header ++ blockBody (indent + 2) ((String.ofList body).splitOn "\n")

/-- A long one-line string as a folded block scalar for a key at column `indent`. -/
def foldedBlock (indent : Nat) (s : String) : String :=
  ">-" ++ blockBody (indent + 2) ((packLines (foldPieces s.toList []) []).map String.ofList)

/-- A string as the value of a key at column `indent`: a block scalar, plain, or
double-quoted, as the module describes. -/
def scalarText (indent : Nat) (s : String) : String :=
  if s.toList.contains '\n' && blockable s then literalBlock indent s
  else if foldWidth < s.length && s.toList.contains ' ' && blockable s then foldedBlock indent s
  else if isPlainSafe s then s
  else doubleQuoted s

end Yaml

end SchemaNorm
