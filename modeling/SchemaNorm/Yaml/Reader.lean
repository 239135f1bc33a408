import SchemaNorm.Yaml.Merge

/-!
Reading YAML text into a node tree, for the subset that configuration files and snapshots
use: block mappings and sequences (a sequence may sit at its key's column), explicit `?` keys,
flow mappings and sequences, plain scalars (continued on later lines), single- and
double-quoted scalars with their escapes and line folding, literal and folded block scalars
with chomping and indentation indicators, comments, anchors and aliases, tags (with the
handles that `%TAG` directives declare), merge keys, and one document with optional `---` and
`...` markers after its directives. A byte order mark at the start is skipped.

Refused: a tab in the indentation of a line with content, a mapping key given twice, an
unclosed flow collection or quoted scalar, an entry indented more than its siblings, a mapping
value or sequence entry where a plain value stands, an alias to an unknown anchor, a tag with
an undeclared handle, an implicit block key more than 1024 characters before its `:`, and flow
collections nested more than 255 deep.

The reader is recursive descent; block collections end where a line starts left of their
column. Every step consumes input, so a fuel of a few times the input length suffices.
-/

namespace SchemaNorm

namespace Yaml

/-- The reader's position: the remaining characters, the column of the first of them, how
many characters were read before them, the anchors defined so far, the tag handles declared,
and how many flow collections are open. -/
structure Cursor where
  rest : List Char
  col : Nat
  pos : Nat := 0
  anchors : List (String × Node) := []
  handles : List (String × String) := []
  flowDepth : Nat := 0

/-- Reading steps: they move the cursor, or fail with a reason. -/
abbrev ReadM := StateT Cursor (Except String)

namespace Reader

/-- Spaces and tabs. -/
def isBlank (c : Char) : Bool := c = ' ' || c = '\t'

/-- A separator: a blank, a line break, or the end of the text. -/
def isSep : Option Char → Bool
  | none => true
  | some c => c = ' ' || c = '\t' || c = '\n'

/-- The characters that delimit flow collections. -/
def isFlowIndicator (c : Char) : Bool := c = ',' || c = '[' || c = ']' || c = '{' || c = '}'

/-- The column after reading `cs` from column `col`. -/
def columnAfter (col : Nat) (cs : List Char) : Nat :=
  cs.foldl (fun c ch => if ch = '\n' then 0 else c + 1) col

/-- The next character. -/
def peek : ReadM (Option Char) := return (← get).rest.head?

/-- The character after the next. -/
def peekSecond : ReadM (Option Char) := return ((← get).rest.drop 1).head?

/-- The current column. -/
def column : ReadM Nat := return (← get).col

/-- Whether the text is used up. -/
def atEnd : ReadM Bool := return (← get).rest.isEmpty

/-- The fuel the rest of the text needs. -/
def restFuel : ReadM Nat := return (← get).rest.length + 1

/-- Consumes `n` characters. -/
def advanceBy (n : Nat) : ReadM Unit := modify fun r =>
  let taken := r.rest.take n
  { r with rest := r.rest.drop n, col := columnAfter r.col taken, pos := r.pos + taken.length }

/-- Consumes the longest prefix whose characters satisfy `p`. -/
def takeWhileM (p : Char → Bool) : ReadM (List Char) := do
  let r ← get
  let taken := r.rest.takeWhile p
  set { r with rest := r.rest.drop taken.length, col := columnAfter r.col taken,
               pos := r.pos + taken.length }
  return taken

/-- Skips blanks within the line. -/
def skipBlanks : ReadM Unit := do let _ ← takeWhileM isBlank

/-- Whether the line that starts `cs` holds more than blanks and a comment. -/
def lineHasContent (cs : List Char) : Bool :=
  match (cs.takeWhile (· != '\n')).dropWhile isBlank with
  | [] => false
  | '#' :: _ => false
  | _ => true

/-- Skips blanks, comments and line breaks, counting them in `n`. `lineStart` says only
blanks precede on the line, `comment` that a comment is being skipped. Outside flow
collections a tab in the indentation of a line with content is refused. -/
def skipLines : List Char → Nat → Nat → Bool → Bool → Bool → Except String (List Char × Nat × Nat)
  | [], col, n, _, _, _ => .ok ([], col, n)
  | '\n' :: rest, _, n, _, flow, _ => skipLines rest 0 (n + 1) true flow false
  | _ :: rest, col, n, ls, flow, true => skipLines rest (col + 1) (n + 1) ls flow true
  | ' ' :: rest, col, n, ls, flow, false => skipLines rest (col + 1) (n + 1) ls flow false
  | '\t' :: rest, col, n, ls, flow, false =>
    if ls && !flow && lineHasContent rest then .error "tab character in indentation"
    else skipLines rest (col + 1) (n + 1) ls flow false
  | '#' :: rest, col, n, ls, flow, false => skipLines rest (col + 1) (n + 1) ls flow true
  | c :: rest, col, n, _, _, false => .ok (c :: rest, col, n)

/-- Moves to the next content, across comments and empty lines. -/
def skipToContent (flow : Bool) : ReadM Unit := do
  let r ← get
  match skipLines r.rest r.col 0 (r.col == 0) flow false with
  | .ok (rest, col, n) => set { r with rest, col, pos := r.pos + n }
  | .error e => throw e

/-- Whether only blanks and a comment remain on the line. -/
def atLineEnd : ReadM Bool := do
  skipBlanks
  match ← peek with
  | none | some '\n' | some '#' => return true
  | _ => return false

/-- Whether the cursor is at a document marker (`---` or `...` at column 0). -/
def atDocumentMarker : ReadM Bool := do
  let r ← get
  if r.col != 0 then return false
  match r.rest with
  | '-' :: '-' :: '-' :: rest | '.' :: '.' :: '.' :: rest => return isSep rest.head?
  | _ => return false

/-- Whether the cursor is at a block sequence entry indicator. -/
def atEntryIndicator : ReadM Bool := do
  return (← peek) == some '-' && isSep (← peekSecond)

/-- The characters of a plain scalar on the current line, up to a line break, a `:` that
ends a key, a comment, or (in flow context) a flow indicator. -/
def plainChars (flow : Bool) : List Char → Char → List Char × List Char
  | [], _ => ([], [])
  | '\n' :: rest, _ => ([], '\n' :: rest)
  | ':' :: rest, _ =>
    let stop := isSep rest.head? || (flow && (rest.head?.map isFlowIndicator).getD false)
    if stop then ([], ':' :: rest)
    else let (a, b) := plainChars flow rest ':'; (':' :: a, b)
  | '#' :: rest, prev =>
    if isBlank prev then ([], '#' :: rest)
    else let (a, b) := plainChars flow rest '#'; ('#' :: a, b)
  | c :: rest, _ =>
    if flow && isFlowIndicator c then ([], c :: rest)
    else let (a, b) := plainChars flow rest c; (c :: a, b)

/-- Drops trailing blanks. -/
def trimEndBlanks (cs : List Char) : List Char := (cs.reverse.dropWhile isBlank).reverse

/-- Reads the plain characters of the current line, without trailing blanks. -/
def plainLine (flow : Bool) : ReadM (List Char) := do
  let r ← get
  let (text, _) := plainChars flow r.rest ' '
  advanceBy text.length
  return trimEndBlanks text

/-- Whether the cursor is at a `:` that separates a key from its value. -/
def atValueIndicator (flow : Bool) : ReadM Bool := do
  if (← peek) != some ':' then return false
  let next ← peekSecond
  return isSep next || (flow && (next.map isFlowIndicator).getD false)

/-- Counts the line breaks of a run of blanks and breaks, and its length. -/
def breakRun : List Char → Nat → Nat → Nat × Nat
  | ' ' :: r, k, n => breakRun r k (n + 1)
  | '\t' :: r, k, n => breakRun r k (n + 1)
  | '\n' :: r, k, n => breakRun r (k + 1) (n + 1)
  | _, k, n => (k, n)

/-- Folds the line break at the cursor with the blanks and breaks after it: one break
becomes a space, `k + 1` breaks become `k` line feeds. Gives the characters to add. -/
def foldBreak : ReadM (List Char) := do
  advanceBy 1
  let (k, n) := breakRun (← get).rest 0 0
  advanceBy n
  return if k = 0 then [' '] else List.replicate k '\n'

/-- The body of a single-quoted scalar; `acc` holds what is read, last first. -/
def singleQuotedBody : Nat → List Char → ReadM String
  | 0, _ => throw "unterminated quoted scalar"
  | fuel + 1, acc => do
    match ← peek, ← peekSecond with
    | none, _ => throw "unterminated quoted scalar"
    | some '\'', some '\'' => advanceBy 2; singleQuotedBody fuel ('\'' :: acc)
    | some '\'', _ => advanceBy 1; return String.ofList acc.reverse
    | some '\n', _ =>
      let folded ← foldBreak
      singleQuotedBody fuel (folded.reverse ++ acc.dropWhile isBlank)
    | some c, _ => advanceBy 1; singleQuotedBody fuel (c :: acc)

/-- The value of `n` hexadecimal digits at the front of `cs`. -/
def hexValue? (cs : List Char) (n : Nat) : Option Nat :=
  if cs.length < n then none
  else (cs.take n).foldlM (fun acc c =>
    if '0' ≤ c ∧ c ≤ '9' then some (acc * 16 + (c.toNat - '0'.toNat))
    else if 'a' ≤ c ∧ c ≤ 'f' then some (acc * 16 + (c.toNat - 'a'.toNat + 10))
    else if 'A' ≤ c ∧ c ≤ 'F' then some (acc * 16 + (c.toNat - 'A'.toNat + 10))
    else none) 0

/-- The character of a code point that is a Unicode scalar value. -/
def scalarChar? (n : Nat) : Option Char :=
  if n < 0xD800 ∨ (0xDFFF < n ∧ n < 0x110000) then some (Char.ofNat n) else none

/-- The character of a one-letter escape of double-quoted scalars. -/
def simpleEscape? : Char → Option Char
  | '0' => some '\x00' | 'a' => some '\x07' | 'b' => some '\x08' | 't' => some '\t'
  | '\t' => some '\t' | 'n' => some '\n' | 'v' => some '\x0b' | 'f' => some '\x0c'
  | 'r' => some '\r' | 'e' => some '\x1b' | ' ' => some ' ' | '"' => some '"'
  | '/' => some '/' | '\\' => some '\\' | 'N' => some '\u0085' | '_' => some ' '
  | 'L' => some ' ' | 'P' => some ' '
  | _ => none

/-- The body of a double-quoted scalar; `acc` holds what is read, last first. -/
def doubleQuotedBody : Nat → List Char → ReadM String
  | 0, _ => throw "unterminated quoted scalar"
  | fuel + 1, acc => do
    match ← peek, ← peekSecond with
    | none, _ => throw "unterminated quoted scalar"
    | some '"', _ => advanceBy 1; return String.ofList acc.reverse
    | some '\\', some '\n' =>
      -- an escaped line break joins the lines without a space
      advanceBy 1
      let _ ← foldBreak
      doubleQuotedBody fuel acc
    | some '\\', some e =>
      match simpleEscape? e with
      | some c => advanceBy 2; doubleQuotedBody fuel (c :: acc)
      | none =>
        let width := if e = 'x' then 2 else if e = 'u' then 4 else if e = 'U' then 8 else 0
        if width = 0 then throw "unknown escape"
        else
          let digits := (← get).rest.drop 2
          match hexValue? digits width >>= scalarChar? with
          | some c => advanceBy (2 + width); doubleQuotedBody fuel (c :: acc)
          | none => throw "invalid escape"
    | some '\\', none => throw "unterminated quoted scalar"
    | some '\n', _ =>
      let folded ← foldBreak
      doubleQuotedBody fuel (folded.reverse ++ acc.dropWhile isBlank)
    | some c, _ => advanceBy 1; doubleQuotedBody fuel (c :: acc)

/-- A quoted scalar at the cursor. -/
def quotedScalar : ReadM Node := do
  let q ← peek
  advanceBy 1
  let fuel ← restFuel
  let text ← if q == some '\'' then singleQuotedBody fuel [] else doubleQuotedBody fuel []
  return .scalar .none false text

/-- The name after an anchor or alias indicator. -/
def anchorName : ReadM String := do
  advanceBy 1
  let name ← takeWhileM fun c => !(isBlank c || c = '\n' || isFlowIndicator c)
  if name.isEmpty then throw "empty anchor name"
  return String.ofList name

/-- The node an alias names. -/
def aliasNode : ReadM Node := do
  let name ← anchorName
  match (← get).anchors.lookup name with
  | some n => return n
  | none => throw "unknown alias"

/-- Remembers an anchored node. -/
def define (name : String) (n : Node) : ReadM Unit :=
  modify fun r => { r with anchors := (name, n) :: r.anchors }

/-- What a resolved tag asks of a scalar: the core schema's `str` and every tag outside the
core schema change nothing, `null` and `binary` are read, and the other core tags are
refused. -/
def tagOf (full : String) : Tag :=
  let core := "tag:yaml.org,2002:"
  if full.startsWith core then
    let name := full.drop core.length
    if name == "str" then .none
    else if name == "null" then .null
    else if name == "binary" then .binary
    else .refused
  else .none

/-- The prefix a tag handle stands for: a declared one, or the default of `!` and `!!`. -/
def handlePrefix? (handles : List (String × String)) (handle : String) : Option String :=
  match handles.lookup handle with
  | some p => some p
  | none =>
    if handle = "!" then some "!"
    else if handle = "!!" then some "tag:yaml.org,2002:"
    else none

/-- Reads a tag at its `!`: a verbatim `!<uri>`, or a handle (`!`, `!!` or `!name!`) and a
suffix, which ends at a blank, a line break or a flow indicator. -/
def tagAt : ReadM Tag := do
  advanceBy 1
  if (← peek) == some '<' then
    advanceBy 1
    let uri ← takeWhileM fun c => c != '>' && c != '\n'
    if (← peek) != some '>' then throw "unterminated verbatim tag"
    advanceBy 1
    return tagOf (String.ofList uri)
  let body ← takeWhileM fun c => !(isBlank c || c = '\n' || isFlowIndicator c)
  let named := body.takeWhile (· != '!')
  let (handle, suffix) := if named.length < body.length
    then ("!" ++ String.ofList named ++ "!", body.drop (named.length + 1))
    else ("!", body)
  match handlePrefix? (← get).handles handle with
  | some p => return tagOf (p ++ String.ofList suffix)
  | none => throw "undefined tag handle"

/-- How a block scalar treats its final line breaks. -/
inductive Chomping where
  /-- `-`: drop them all. -/
  | strip
  /-- No indicator: keep the break that ends the last line. -/
  | clip
  /-- `+`: keep them all. -/
  | keep
  deriving DecidableEq

/-- The lines of a block scalar: each line with content (its indentation removed) and the
number of empty lines before it, whether the last such line ended with a line break, and the
number of empty lines after it. -/
structure BlockLines where
  lines : List (Nat × List Char)
  endBreak : Bool
  trailing : Nat

/-- From the start of a line, eats at most `indent` spaces of each line and the empty lines
(those with nothing after such spaces), counting the line breaks in `k`. Gives the breaks,
the rest, and the spaces eaten on the line where it stopped. A tab where an indentation space
is expected is refused. -/
def blockBreaks (indent : Nat) : Nat → List Char → Nat → Except String (Nat × List Char × Nat)
  | 0, cs, k => .ok (k, cs, 0)
  | fuel + 1, cs, k =>
    let s := min (cs.takeWhile (· = ' ')).length indent
    let rest := cs.drop s
    match rest with
    | '\n' :: more => blockBreaks indent fuel more (k + 1)
    | '\t' :: _ => if s < indent then .error "tab character in indentation" else .ok (k, rest, s)
    | _ => .ok (k, rest, s)

/-- Like `blockBreaks` before the indentation is known: eats every space, and also gives the
widest indentation seen, `widest` included. -/
def blockBreaksAuto : Nat → List Char → Nat → Nat → Except String (Nat × Nat × List Char × Nat)
  | 0, cs, k, widest => .ok (k, widest, cs, 0)
  | fuel + 1, cs, k, widest =>
    let s := (cs.takeWhile (· = ' ')).length
    let rest := cs.drop s
    let widest := max widest s
    match rest with
    | '\n' :: more => blockBreaksAuto fuel more (k + 1) widest
    | '\t' :: _ => .error "tab character in indentation"
    | _ => .ok (k, widest, rest, s)

/-- Reads the lines of a block scalar with content indentation `indent`, from column `col` of
a line after `k` empty lines: a line with content starts exactly at the indentation; anything
else ends the scalar. Gives the lines, the rest and its column. -/
def blockContent (indent : Nat) :
    Nat → List Char → Nat → Nat → Bool → List (Nat × List Char) →
      Except String (BlockLines × List Char × Nat)
  | 0, cs, col, k, endBreak, acc => .ok (⟨acc.reverse, endBreak, k⟩, cs, col)
  | fuel + 1, cs, col, k, endBreak, acc =>
    if col ≠ indent || cs.isEmpty then .ok (⟨acc.reverse, endBreak, k⟩, cs, col)
    else
      let line := cs.takeWhile (· != '\n')
      match cs.drop line.length with
      | [] => .ok (⟨((k, line) :: acc).reverse, false, 0⟩, [], col + line.length)
      | _ :: more => do
        let (k', rest, s) ← blockBreaks indent fuel more 0
        blockContent indent fuel rest s k' true ((k, line) :: acc)

/-- Joins the lines of a block scalar. Empty lines before a line become line feeds. A literal
scalar keeps every line break; a folded one turns the break between two lines that do not start
with a blank into a space, or drops it when empty lines stand between them. -/
def joinBlockLines (folded : Bool) : List (Nat × List Char) → Bool → Bool → List Char
  | [], _, _ => []
  | (k, line) :: rest, first, prevBlank =>
    let blank := (line.head?.map isBlank).getD false
    let sepr :=
      if first then List.replicate k '\n'
      else if folded && !prevBlank && !blank then
        (if k = 0 then [' '] else List.replicate k '\n')
      else '\n' :: List.replicate k '\n'
    sepr ++ line ++ joinBlockLines folded rest false blank

/-- The text of a block scalar from its lines. -/
def blockText (folded : Bool) (chomping : Chomping) (b : BlockLines) : List Char :=
  let text := joinBlockLines folded b.lines true false
  let lastBreak := if b.endBreak then ['\n'] else []
  match chomping with
  | .strip => text
  | .clip => text ++ lastBreak
  | .keep => text ++ lastBreak ++ List.replicate b.trailing '\n'

/-- A step that cannot move the cursor, as a reading step. -/
def fromExcept {α : Type} : Except String α → ReadM α
  | .ok a => pure a
  | .error e => throw e

/-- A literal (`|`) or folded (`>`) block scalar whose parent node is indented by `parent`
(`-1` at the top). Without an indentation indicator the content is indented as much as the
widest of its leading empty lines and first line, and more than its parent. -/
def blockScalar (parent : Int) : ReadM Node := do
  let folded := (← peek) == some '>'
  advanceBy 1
  let indicators ← takeWhileM fun c => c = '+' || c = '-' || ('1' ≤ c && c ≤ '9')
  let digits := indicators.filter fun c => '1' ≤ c && c ≤ '9'
  let chomps := indicators.filter fun c => c = '+' || c = '-'
  if 1 < digits.length || 1 < chomps.length then throw "invalid block scalar header"
  let chomping : Chomping := if chomps = ['-'] then .strip else if chomps = ['+'] then .keep
    else .clip
  unless ← atLineEnd do throw "text after block scalar indicator"
  let _ ← takeWhileM (· != '\n')
  advanceBy 1
  let r ← get
  let fuel := r.rest.length + 1
  let base : Nat := if parent < 0 then 0 else parent.toNat
  let (indent, k, rest, col) ← match digits.head? with
    | some d => do
      let indent := base + (d.toNat - '0'.toNat)
      let (k, rest, col) ← fromExcept (blockBreaks indent fuel r.rest 0)
      pure (indent, k, rest, col)
    | none => do
      let (k, widest, rest, col) ← fromExcept (blockBreaksAuto fuel r.rest 0 0)
      pure (max widest (max (parent + 1).toNat 1), k, rest, col)
  let (lines, rest, col) ← fromExcept (blockContent indent fuel rest col k false [])
  set { r with rest, col, pos := r.pos + (r.rest.length - rest.length) }
  return .scalar .none false (String.ofList (blockText folded chomping lines))

/-- Continues a plain scalar of a block on the lines below that are indented more than
`parent`: a single break becomes a space, empty lines become line feeds. -/
def plainContinuation : Nat → Int → List Char → ReadM (List Char)
  | 0, _, text => return text
  | fuel + 1, parent, text => do
    let saved ← get
    let (k, n) := breakRun saved.rest 0 0
    if k = 0 then return text
    advanceBy n
    let lineCol ← column
    let continues := !(← atEnd) && (lineCol : Int) > parent && !(← atDocumentMarker) &&
      (← peek) != some '#'
    if !continues then
      set saved
      return text
    let line ← plainLine false
    if ← atValueIndicator false then throw "mapping values are not allowed in this context"
    let sepr := if k = 1 then [' '] else List.replicate (k - 1) '\n'
    plainContinuation fuel parent (text ++ sepr ++ line)

/-- Continues a plain scalar of a flow collection on the following lines: a single break
becomes a space, empty lines become line feeds. A line that starts with an indicator ending
the scalar is left unread. -/
def flowPlainContinuation : Nat → List Char → ReadM (List Char)
  | 0, text => return text
  | fuel + 1, text => do
    let saved ← get
    let (k, n) := breakRun saved.rest 0 0
    if k = 0 then return text
    advanceBy n
    let line ← plainLine true
    if line.isEmpty then
      set saved
      return text
    let sepr := if k = 1 then [' '] else List.replicate (k - 1) '\n'
    flowPlainContinuation fuel (text ++ sepr ++ line)

/-- Whether a key's text appears among the entries read so far. -/
def hasKey (entries : List (Node × Node)) (k : Node) : Bool :=
  match k.keyText? with
  | some t => entries.any fun (k', _) => k'.keyText? == some t
  | none => false

/-- The most characters an implicit block key may take up to its `:`. -/
def keyLengthLimit : Nat := 1024

/-- Refuses an implicit key that started at `start` and reaches the cursor's `:` only after
more than `keyLengthLimit` characters. -/
def checkKeyLength (start : Nat) : ReadM Unit := do
  if start + keyLengthLimit < (← get).pos then throw "could not find expected ':'"

/-- The deepest that flow collections may nest. -/
def flowDepthLimit : Nat := 255

/-- Opens a flow collection, refusing one nested too deep. -/
def enterFlow : ReadM Unit := do
  let r ← get
  if flowDepthLimit ≤ r.flowDepth then throw "recursion limit exceeded"
  set { r with flowDepth := r.flowDepth + 1 }

/-- Closes a flow collection. -/
def leaveFlow : ReadM Unit := modify fun r => { r with flowDepth := r.flowDepth - 1 }

/-- Whether the cursor is where a flow node may be left empty: at a flow separator or
closer, at a `:` that separates a value, or at the end. -/
def atFlowEnd : ReadM Bool := do
  match ← peek with
  | none | some ',' | some ']' | some '}' => return true
  | _ => atValueIndicator true

/-- Whether the cursor is at an explicit key indicator. -/
def atExplicitKey : ReadM Bool := do
  return (← peek) == some '?' && isSep (← peekSecond)

mutual

/-- A flow node: a flow collection, a quoted scalar, an alias, or a plain scalar. -/
def flowNode : Nat → ReadM Node
  | 0 => throw "input too deeply nested"
  | fuel + 1 => do
    match ← peek with
    | some '[' =>
      enterFlow
      advanceBy 1
      let n ← flowSeqItems fuel []
      leaveFlow
      return n
    | some '{' =>
      enterFlow
      advanceBy 1
      let n ← flowMapEntries fuel []
      leaveFlow
      return n
    | some '"' | some '\'' => quotedScalar
    | some '*' => aliasNode
    | some '&' =>
      let name ← anchorName
      skipToContent true
      let n ← if ← atFlowEnd then pure Node.empty else flowNode fuel
      define name n
      return n
    | some '!' =>
      let tag ← tagAt
      skipToContent true
      let n ← if ← atFlowEnd then pure Node.empty else flowNode fuel
      return n.withTag tag
    | _ =>
      let text ← plainLine true
      if text.isEmpty then throw "expected a flow node"
      let text ← flowPlainContinuation (← restFuel) text
      return .scalar .none true (String.ofList text)

/-- The items of a flow sequence after `[`; `acc` holds them, last first. -/
def flowSeqItems : Nat → List Node → ReadM Node
  | 0, _ => throw "input too deeply nested"
  | fuel + 1, acc => do
    skipToContent true
    if (← peek) == some ']' then advanceBy 1; return .seq acc.reverse
    let item ← flowNode fuel
    skipToContent true
    let item ← if ← atValueIndicator true then do
        advanceBy 1
        skipToContent true
        let p ← peek
        let v ← if p == some ',' || p == some ']' then pure Node.empty else flowNode fuel
        pure (Node.map [(item, v)])
      else pure item
    skipToContent true
    match ← peek with
    | some ',' => advanceBy 1; flowSeqItems fuel (item :: acc)
    | some ']' => advanceBy 1; return .seq (item :: acc).reverse
    | _ => throw "unclosed flow sequence"

/-- The entries of a flow mapping after `{`; `acc` holds them, last first. -/
def flowMapEntries : Nat → List (Node × Node) → ReadM Node
  | 0, _ => throw "input too deeply nested"
  | fuel + 1, acc => do
    skipToContent true
    if (← peek) == some '}' then advanceBy 1; return .map acc.reverse
    let key ← flowNode fuel
    skipToContent true
    let quotedKey := match key with
      | .scalar _ false _ => true
      | _ => false
    let value ← if (← peek) == some ':' && (quotedKey || (← atValueIndicator true)) then do
        advanceBy 1
        skipToContent true
        let p ← peek
        if p == some ',' || p == some '}' then pure Node.empty else flowNode fuel
      else pure Node.empty
    if hasKey acc key then throw "duplicate mapping key"
    skipToContent true
    match ← peek with
    | some ',' => advanceBy 1; flowMapEntries fuel ((key, value) :: acc)
    | some '}' => advanceBy 1; return .map ((key, value) :: acc).reverse
    | _ => throw "unclosed flow mapping"

/-- A block node at the cursor whose lines are indented more than `parent`. -/
def blockNode : Nat → Int → ReadM Node
  | 0, _ => throw "input too deeply nested"
  | fuel + 1, parent => do
    let c ← column
    let start := (← get).pos
    match ← peek with
    | some '-' =>
      if isSep (← peekSecond) then blockSeq fuel c []
      else plainOrMap fuel parent c
    | some '?' =>
      if isSep (← peekSecond) then
        let entry ← explicitEntry fuel c
        mapEntries fuel c [entry]
      else plainOrMap fuel parent c
    | some '&' =>
      let name ← anchorName
      let n ← propertyTarget fuel parent
      define name n
      return n
    | some '*' =>
      let n ← aliasNode
      skipBlanks
      if ← atValueIndicator false then
        checkKeyLength start
        blockMapAfterKey fuel c n
      else return n
    | some '!' =>
      let tag ← tagAt
      let n ← propertyTarget fuel parent
      return n.withTag tag
    | some '|' | some '>' => blockScalar parent
    | some '[' | some '{' =>
      let n ← flowNode fuel
      skipBlanks
      if ← atValueIndicator false then
        checkKeyLength start
        blockMapAfterKey fuel c n
      else return n
    | some '"' | some '\'' =>
      let n ← quotedScalar
      skipBlanks
      if (← peek) == some ':' then
        checkKeyLength start
        blockMapAfterKey fuel c n
      else return n
    | _ => plainOrMap fuel parent c

/-- The node after an anchor or a tag in a block: on the same line, or on the lines below
when indented more than `parent`; empty when nothing follows. -/
def propertyTarget : Nat → Int → ReadM Node
  | 0, _ => throw "input too deeply nested"
  | fuel + 1, parent => do
    if ← atLineEnd then
      skipToContent false
      if (← atEnd) || (← atDocumentMarker) || ((← column) : Int) ≤ parent then
        return Node.empty
      blockNode fuel parent
    else blockNode fuel parent

/-- A plain scalar at column `c`, or the mapping whose first key it is. -/
def plainOrMap : Nat → Int → Nat → ReadM Node
  | 0, _, _ => throw "input too deeply nested"
  | fuel + 1, parent, c => do
    let start := (← get).pos
    let first ← plainLine false
    if ← atValueIndicator false then
      checkKeyLength start
      blockMapAfterKey fuel c (.scalar .none true (String.ofList first))
    else
      let text ← plainContinuation (← restFuel) parent first
      return .scalar .none true (String.ofList text)

/-- A block mapping at column `c` whose first key is read; the cursor is at its `:`. -/
def blockMapAfterKey : Nat → Nat → Node → ReadM Node
  | 0, _, _ => throw "input too deeply nested"
  | fuel + 1, c, key => do
    advanceBy 1
    let value ← mapValue fuel c
    mapEntries fuel c [(key, value)]

/-- An explicit entry of a block mapping at column `c`, the cursor at its `?`: the key after
the indicator, and the value after a `:` at the same column on a later line (empty when there
is none). -/
def explicitEntry : Nat → Nat → ReadM (Node × Node)
  | 0, _ => throw "input too deeply nested"
  | fuel + 1, c => do
    advanceBy 1
    let key ← if ← atLineEnd then do
        skipToContent false
        if (← atEnd) || (← atDocumentMarker) || (← column) ≤ c then pure Node.empty
        else blockNode fuel c
      else blockNode fuel c
    skipToContent false
    if !(← atEnd) && (← column) == c && (← atValueIndicator false) then
      advanceBy 1
      let value ← mapValue fuel c
      return (key, value)
    return (key, Node.empty)

/-- The remaining entries of a block mapping at column `c`. -/
def mapEntries : Nat → Nat → List (Node × Node) → ReadM Node
  | 0, _, _ => throw "input too deeply nested"
  | fuel + 1, c, acc => do
    skipToContent false
    if (← atEnd) || (← atDocumentMarker) then return .map acc.reverse
    let c' ← column
    if c' < c then return .map acc.reverse
    if c' > c then throw "bad indentation of a mapping entry"
    let (key, value) ← if ← atExplicitKey then explicitEntry fuel c
      else do
        let start := (← get).pos
        let key ← mapKey fuel
        unless ← atValueIndicator false do
          if (← peek) != some ':' then throw "could not find expected ':'"
        checkKeyLength start
        advanceBy 1
        let value ← mapValue fuel c
        pure (key, value)
    if hasKey acc key then throw "duplicate mapping key"
    mapEntries fuel c ((key, value) :: acc)

/-- A key of a block mapping entry. -/
def mapKey : Nat → ReadM Node
  | 0 => throw "input too deeply nested"
  | fuel + 1 => do
    match ← peek with
    | some '"' | some '\'' =>
      let k ← quotedScalar
      skipBlanks
      return k
    | some '[' | some '{' =>
      let k ← flowNode fuel
      skipBlanks
      return k
    | some '*' =>
      let k ← aliasNode
      skipBlanks
      return k
    | some '-' =>
      if isSep (← peekSecond) then throw "block sequence entries are not allowed here"
      return .scalar .none true (String.ofList (← plainLine false))
    | _ => return .scalar .none true (String.ofList (← plainLine false))

/-- The value of a block mapping entry whose key is at column `c`; the cursor is after the
`:`. A value on the following lines is indented more than the key, or is a sequence at the
key's column. -/
def mapValue : Nat → Nat → ReadM Node
  | 0, _ => throw "input too deeply nested"
  | fuel + 1, c => do
    if ← atLineEnd then
      skipToContent false
      if (← atEnd) || (← atDocumentMarker) then return Node.empty
      let c' ← column
      if c' > c then blockNode fuel c
      else if c' == c && (← atEntryIndicator) then blockSeq fuel c []
      else return Node.empty
    else inlineValue fuel c

/-- A value that starts on its key's line. -/
def inlineValue : Nat → Nat → ReadM Node
  | 0, _ => throw "input too deeply nested"
  | fuel + 1, c => do
    match ← peek with
    | some '&' =>
      let name ← anchorName
      let n ← if ← atLineEnd then mapValue fuel c else inlineValue fuel c
      define name n
      return n
    | some '!' =>
      let tag ← tagAt
      let n ← if ← atLineEnd then mapValue fuel c else inlineValue fuel c
      return n.withTag tag
    | some '*' => aliasNode
    | some '|' | some '>' => blockScalar c
    | some '[' | some '{' => flowNode fuel
    | some '"' | some '\'' =>
      let n ← quotedScalar
      skipBlanks
      if (← peek) == some ':' then throw "mapping values are not allowed in this context"
      return n
    | some '-' =>
      if isSep (← peekSecond) then throw "block sequence entries are not allowed in this context"
      plainValue c
    | _ => plainValue c

/-- A plain value that starts on its key's line, continued on lines indented more than the
key. -/
def plainValue (c : Nat) : ReadM Node := do
  let first ← plainLine false
  if ← atValueIndicator false then throw "mapping values are not allowed in this context"
  let text ← plainContinuation (← restFuel) c first
  return .scalar .none true (String.ofList text)

/-- The entries of a block sequence at column `c`; the cursor is at an entry's `-`. -/
def blockSeq : Nat → Nat → List Node → ReadM Node
  | 0, _, _ => throw "input too deeply nested"
  | fuel + 1, c, acc => do
    advanceBy 1
    let item ← if ← atLineEnd then do
        skipToContent false
        if (← atEnd) || (← atDocumentMarker) then pure Node.empty
        else if (← column) > c then blockNode fuel c
        else pure Node.empty
      else blockNode fuel c
    skipToContent false
    if (← atEnd) || (← atDocumentMarker) then return .seq (item :: acc).reverse
    let c' ← column
    if c' == c && (← atEntryIndicator) then blockSeq fuel c (item :: acc)
    else if c' > c then throw "bad indentation of a sequence entry"
    else return .seq (item :: acc).reverse

end

/-- Reads the directives before a document: `%TAG` declares a tag handle, other directives
are skipped. Whether any was read. -/
def directives : Nat → Bool → ReadM Bool
  | 0, seen => return seen
  | fuel + 1, seen => do
    skipToContent false
    let r ← get
    if r.col == 0 && r.rest.head? == some '%' then
      let line ← takeWhileM (· != '\n')
      let words := (String.ofList line).split (fun c => c = ' ' || c = '\t')
        |>.toList.map (·.toString) |>.filter (· ≠ "")
      match words with
      | ["%TAG", handle, pfx] =>
        modify fun r => { r with handles := (handle, pfx) :: r.handles }
      | _ => pure ()
      directives fuel true
    else return seen

/-- Whether the cursor is at a document start marker. -/
def atStartMarker : ReadM Bool := do
  let r ← get
  match r.rest with
  | '-' :: '-' :: '-' :: rest => return r.col == 0 && isSep rest.head?
  | _ => return false

/-- A whole document: `none` when it holds no node. Directives must be followed by a start
marker. -/
def document : ReadM (Option Node) := do
  let fuel := 4 * (← restFuel) + 16
  let declared ← directives (← restFuel) false
  skipToContent false
  let startMarker ← atStartMarker
  if declared && !startMarker then throw "expected a document start marker"
  if startMarker then
    advanceBy 3
  let node ← if startMarker && !(← atLineEnd) then some <$> blockNode fuel (-1)
    else do
      skipToContent false
      if (← atEnd) || (← atDocumentMarker) then pure none
      else some <$> blockNode fuel (-1)
  skipToContent false
  let r ← get
  match r.rest with
  | '.' :: '.' :: '.' :: rest =>
    if r.col == 0 && isSep rest.head? then
      advanceBy 3
      skipToContent false
  | _ => pure ()
  unless ← atEnd do throw "expected the end of the document"
  return node

end Reader

/-- Line breaks as line feeds: `\r\n` and a lone `\r` become `\n`. -/
def normalizeBreaks : List Char → List Char
  | '\r' :: '\n' :: rest => '\n' :: normalizeBreaks rest
  | '\r' :: rest => '\n' :: normalizeBreaks rest
  | c :: rest => c :: normalizeBreaks rest
  | [] => []

/-- The characters of a text without a leading byte order mark. -/
def withoutByteOrderMark : List Char → List Char
  | '\uFEFF' :: rest => rest
  | cs => cs

/-- Reads one YAML document, with its merge keys expanded: `none` inside for an empty
document, an error for text outside the supported subset. -/
def parse (text : String) : Except String (Option Node) := do
  let (node, _) ← Reader.document.run
    { rest := normalizeBreaks (withoutByteOrderMark text.toList), col := 0 }
  match node with
  | some n => some <$> n.expandMerges
  | none => pure none

end Yaml

end SchemaNorm
