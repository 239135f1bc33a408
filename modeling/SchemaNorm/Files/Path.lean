import SchemaNorm.Text.Printable
/-!
Paths as text, split into components at `/`. Empty components and `.` components after the
first are not components; `..` is one but has no file name. A file's extension is what
follows the last dot of its name, unless that dot starts the name.

Joining a relative path appends it after a separator; joining an absolute path replaces the
base. A path's parent drops its last component.
-/

namespace SchemaNorm

namespace Path

/-- Whether a path starts at the root. -/
def isAbsolute (p : String) : Bool := p.startsWith "/"

/-- The text between the separators of a path, empty pieces included. The split runs over
the path's characters, so it evaluates by structural recursion. -/
def pieces (p : String) : List String := (p.toList.splitOn '/').map String.ofList

/-- The components of a path, without empty ones and without `.` after the first. -/
def components (p : String) : List String :=
  let parts := pieces p
  match parts with
  | [] => []
  | first :: rest => (if first = "" then [] else [first]) ++
      rest.filter fun c => c ≠ "" ∧ c ≠ "."

/-- The last component, when it names a file or directory (not `.`, `..` or the root). -/
def fileName? (p : String) : Option String :=
  match (components p).getLast? with
  | some name => if name = "." ∨ name = ".." then none else some name
  | none => none

/-- The extension of a file name: after its last dot, when that dot does not start it. -/
def extensionOfName? (name : String) : Option String :=
  let cs := name.toList
  let afterDot := (cs.reverse.takeWhile (· ≠ '.')).reverse
  if afterDot.length = cs.length then none
  else if afterDot.length + 1 = cs.length then none
  else some (String.ofList afterDot)

/-- The extension of a path's file name. -/
def extension? (p : String) : Option String := fileName? p >>= extensionOfName?

/-- `path` relative to `base`: an absolute path stands alone, a relative one is appended
after a separator (none is added when `base` already ends with one). -/
def join (base path : String) : String :=
  if isAbsolute path then path
  else if base.isEmpty || base.endsWith "/" then base ++ path
  else base ++ "/" ++ path

/-- The path without its last component; none for the root and the empty path. -/
def parent? (p : String) : Option String :=
  match (components p).reverse with
  | [] => none
  | _ :: rest =>
    let inner := "/".intercalate rest.reverse
    if isAbsolute p then some ("/" ++ inner) else some inner

/-- Lowercase hexadecimal digits of a number. -/
def hexDigits (n : Nat) : String :=
  String.ofList ((Nat.toDigits 16 n).map Char.toLower)

/-- A character as it appears inside a quoted debug string: quotes, backslashes and the
common controls by their short escapes, other characters that do not print (and combining
marks) by their code point, and the rest as they are. -/
def debugChar (c : Char) : String :=
  match c with
  | '"' => "\\\""
  | '\x27' => "\\'"
  | '\\' => "\\\\"
  | '\n' => "\\n"
  | '\r' => "\\r"
  | '\t' => "\\t"
  | '\x00' => "\\0"
  | _ =>
    if Text.showsEscaped c then "\\u" ++ "\x7b" ++ hexDigits c.toNat ++ "\x7d"
    else String.singleton c

/-- A path quoted the way error messages quote paths: in double quotes, with quotes,
backslashes and characters that do not print escaped. -/
def quoted (p : String) : String := "\"" ++ String.join (p.toList.map debugChar) ++ "\""

end Path

end SchemaNorm
