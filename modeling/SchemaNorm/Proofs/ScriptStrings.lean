import SchemaNorm.Render.Literal
import SchemaNorm.Json.Reader

/-!
Reading back the string literals of generated code. `Script.readLiteral` reads a
double-quoted string literal as an ECMAScript 2019 engine reads one in strict code. A raw
character stands for itself, except the double quote, which closes the literal, the
backslash, and the line terminators line feed and carriage return, which may not stand raw
(line and paragraph separators may). After a backslash come the escapes: one of
`' " \ b f n r t v`, `\0` before no digit, `\xHH`, `\uHHHH`, `\u{H…}` up to `10FFFF`, a line
continuation, or any other character but a digit, `x` or `u`, standing for itself. The value
of a literal is its sequence of UTF-16 code units.

Quoting escapes only the backslash and the double quote. So a quoted string reads back as
itself exactly when it holds no line feed and no carriage return; when it holds one, that
character stands raw inside the literal and no reader accepts it. Quoting is injective all the
same, and a list of quoted strings without line breaks reads back as the list.

Main statement: `Render.quote_readBack`.
-/

namespace SchemaNorm

namespace Script

/-- The UTF-16 code units of a code point. -/
def codeUnits (n : Nat) : List Nat :=
  if n < 0x10000 then [n] else [0xD800 + (n - 0x10000) / 0x400, 0xDC00 + (n - 0x10000) % 0x400]

/-- The UTF-16 code units of a string: the value a script holds for it. -/
def utf16 (s : String) : List Nat := s.toList.flatMap fun c => codeUnits c.toNat

/-- The line terminators. -/
def isLineTerminator (c : Char) : Bool :=
  c = '\n' || c = '\r' || c = '\u2028' || c = '\u2029'

/-- The code units a character after a backslash stands for, when it starts no longer escape:
the control characters of the one-letter escapes, else the character itself. -/
def escapedUnits (c : Char) : List Nat :=
  if c = 'b' then [0x08] else if c = 'f' then [0x0C] else if c = 'n' then [0x0A]
  else if c = 'r' then [0x0D] else if c = 't' then [0x09] else if c = 'v' then [0x0B]
  else codeUnits c.toNat

/-- Where a reader stands inside a literal: among its characters, just after a backslash, or
inside the braces of a code point escape with the value of the digits read so far. -/
inductive Place where
  | body
  | escape
  | braced (value : Nat) (digits : Bool)
  deriving DecidableEq, Repr

/-- A read with some code units in front of its value. -/
def prepend (units : List Nat) : Option (List Nat × List Char) → Option (List Nat × List Char) :=
  Option.map fun r => (units ++ r.1, r.2)

/-- Reads the rest of a literal from the given place up to its closing quote: the code units
read and the text after the quote. -/
def scan : Place → List Char → Option (List Nat × List Char)
  | _, [] => none
  | .body, c :: rest =>
    if c = '"' then some ([], rest)
    else if c = '\\' then scan .escape rest
    else if c = '\n' ∨ c = '\r' then none
    else prepend (codeUnits c.toNat) (scan .body rest)
  | .escape, '\r' :: '\n' :: rest => scan .body rest
  | .escape, 'x' :: a :: b :: rest =>
    match Json.hexValue? a, Json.hexValue? b with
    | some a, some b => prepend [a * 16 + b] (scan .body rest)
    | _, _ => none
  | .escape, 'u' :: '{' :: rest => scan (.braced 0 false) rest
  | .escape, 'u' :: a :: b :: c :: d :: rest =>
    match Json.hexUnit? a b c d with
    | some u => prepend [u] (scan .body rest)
    | none => none
  | .escape, '0' :: rest =>
    if rest.head?.any Char.isDigit then none else prepend [0] (scan .body rest)
  | .escape, c :: rest =>
    -- a line continuation stands for nothing; other digits, `x` and `u` start no escape
    if isLineTerminator c then scan .body rest
    else if c.isDigit ∨ c = 'x' ∨ c = 'u' then none
    else prepend (escapedUnits c) (scan .body rest)
  | .braced value digits, c :: rest =>
    if c = '}' then
      if digits then prepend (codeUnits value) (scan .body rest) else none
    else
      match Json.hexValue? c with
      | some v =>
        if value * 16 + v ≤ 0x10FFFF then scan (.braced (value * 16 + v) true) rest else none
      | none => none

/-- Reads a double-quoted literal at the front of a text: its value and the text after it. -/
def readLiteral : List Char → Option (List Nat × List Char)
  | '"' :: rest => scan .body rest
  | _ => none

/-- Every read takes at least the closing quote. -/
theorem scan_length {p : Place} {cs : List Char} {v : List Nat} {rest : List Char}
    (h : scan p cs = some (v, rest)) : rest.length < cs.length := by
  -- each branch closes the literal or hands a shorter text on to a read the induction covers
  fun_induction scan p cs generalizing v rest <;> simp_all [prepend] <;> grind

theorem readLiteral_length {cs : List Char} {v : List Nat} {rest : List Char}
    (h : readLiteral cs = some (v, rest)) : rest.length < cs.length := by
  unfold readLiteral at h
  split at h
  · exact Nat.lt_succ_of_lt (scan_length h)
  · cases h

/-- Reads literals separated by a comma and a space, up to the end of the text. -/
def readItems (cs : List Char) : Option (List (List Nat)) :=
  match _hread : readLiteral cs with
  | some (v, []) => some [v]
  | some (v, ',' :: ' ' :: rest) => (readItems rest).map (v :: ·)
  | _ => none
termination_by cs.length
decreasing_by
  have := readLiteral_length _hread
  simp only [List.length_cons] at this
  omega

/-- Reads a list of literals separated by a comma and a space; the empty text is the empty
list. -/
def readLiteralList (cs : List Char) : Option (List (List Nat)) :=
  if cs = [] then some [] else readItems cs

/-- A double quote closes the literal. -/
theorem scan_body_quote (rest : List Char) : scan .body ('"' :: rest) = some ([], rest) := by
  simp [scan]

theorem scan_body_backslash (rest : List Char) : scan .body ('\\' :: rest) = scan .escape rest := by
  simp [scan]

/-- A raw character other than a quote, a backslash or a line break stands for itself. -/
theorem scan_body_raw {c : Char} (hq : c ≠ '"') (hb : c ≠ '\\')
    (hbreak : ¬ (c = '\n' ∨ c = '\r')) (rest : List Char) :
    scan .body (c :: rest) = prepend (codeUnits c.toNat) (scan .body rest) := by
  simp [scan, hq, hb, hbreak]

/-- A raw line feed or carriage return ends every read. -/
theorem scan_body_lineBreak {c : Char} (h : c = '\n' ∨ c = '\r') (rest : List Char) :
    scan .body (c :: rest) = none := by
  rcases h with rfl | rfl <;> simp [scan]

/-- An escaped backslash or double quote stands for itself. -/
theorem scan_escape_self {c : Char} (h : c = '\\' ∨ c = '"') (rest : List Char) :
    scan .escape (c :: rest) = prepend (codeUnits c.toNat) (scan .body rest) := by
  rcases h with rfl | rfl <;> simp [scan, isLineTerminator, escapedUnits]

theorem readItems_nil : readItems [] = none := by
  rw [readItems]
  split <;> simp_all [readLiteral]

theorem readItems_of_last {cs : List Char} {v : List Nat} (h : readLiteral cs = some (v, [])) :
    readItems cs = some [v] := by
  rw [readItems]
  split <;> simp_all

theorem readItems_of_sep {cs rest : List Char} {v : List Nat}
    (h : readLiteral cs = some (v, ',' :: ' ' :: rest)) :
    readItems cs = (readItems rest).map (v :: ·) := by
  rw [readItems]
  split <;> simp_all

end Script

namespace Render

open Script

theorem quote_toList_append (s : String) (rest : List Char) :
    (quote s).toList ++ rest = '"' :: (s.toList.flatMap escapeChar ++ '"' :: rest) := by
  rw [quote, String.toList_ofList]
  simp

/-- One escaped character, read inside a literal. -/
theorem scan_escapeChar (c : Char) (rest : List Char) :
    scan .body (escapeChar c ++ rest) =
      if c = '\n' ∨ c = '\r' then none else prepend (codeUnits c.toNat) (scan .body rest) := by
  unfold escapeChar
  split
  · next hc =>
    have hbreak : ¬ (c = '\n' ∨ c = '\r') := by rcases hc with rfl | rfl <;> decide
    rw [if_neg hbreak, List.cons_append, scan_body_backslash, List.singleton_append,
      scan_escape_self hc]
  · next hc =>
    rw [List.singleton_append]
    split
    · next hbreak => exact scan_body_lineBreak hbreak rest
    · next hbreak => exact scan_body_raw (fun h => hc (.inr h)) (fun h => hc (.inl h)) hbreak rest

/-- The escaped characters of a string and a closing quote are read back as the string's code
units, unless the string holds a line break. -/
theorem scan_escaped (s rest : List Char) :
    scan .body (s.flatMap escapeChar ++ '"' :: rest) =
      if '\n' ∈ s ∨ '\r' ∈ s then none else some (s.flatMap fun c => codeUnits c.toNat, rest) := by
  induction s with
  | nil => simp [scan_body_quote]
  | cons c s ih =>
    rw [List.flatMap_cons, List.append_assoc, scan_escapeChar, ih]
    by_cases hc : c = '\n' ∨ c = '\r'
    · rw [if_pos hc, if_pos (by rcases hc with rfl | rfl <;> simp)]
    · rw [if_neg hc]
      by_cases hs : '\n' ∈ s ∨ '\r' ∈ s
      · rw [if_pos hs, if_pos (by rcases hs with hs | hs <;> simp [hs])]
        rfl
      · rw [if_neg hs, if_neg (by simp_all [eq_comm])]
        simp [prepend]

/-- A quoted string followed by any text is read back as the string, the text left over,
unless the string holds a line break; then the literal is refused. -/
theorem readLiteral_quote_append (s : String) (rest : List Char) :
    readLiteral ((quote s).toList ++ rest) =
      if '\n' ∈ s.toList ∨ '\r' ∈ s.toList then none else some (utf16 s, rest) := by
  rw [quote_toList_append]
  exact scan_escaped s.toList rest

theorem readLiteral_quote (s : String) :
    readLiteral (quote s).toList =
      if '\n' ∈ s.toList ∨ '\r' ∈ s.toList then none else some (utf16 s, []) := by
  simpa using readLiteral_quote_append s []

/-- The characters of a quoted string's body: a backslash stands before the character it
escapes. -/
def unescape : List Char → List Char
  | '\\' :: c :: rest => c :: unescape rest
  | c :: rest => c :: unescape rest
  | [] => []

theorem unescape_escaped (s : List Char) : unescape (s.flatMap escapeChar) = s := by
  induction s with
  | nil => rfl
  | cons c s ih =>
    rw [List.flatMap_cons, escapeChar]
    split
    · simp [unescape, ih]
    · next hc =>
      have hb : c ≠ '\\' := fun h => hc (.inl h)
      simp [unescape, hb, ih]

theorem quote_injective : Function.Injective quote := by
  intro s t h
  have hbody : s.toList.flatMap escapeChar = t.toList.flatMap escapeChar := by
    simpa [quote] using congrArg String.toList h
  rw [← String.toList_inj, ← unescape_escaped s.toList, hbody, unescape_escaped]

theorem readItems_quoted (v : String) (vs : List String)
    (h : ∀ w ∈ v :: vs, '\n' ∉ w.toList ∧ '\r' ∉ w.toList) :
    readItems (", ".intercalate ((v :: vs).map quote)).toList = some ((v :: vs).map utf16) := by
  induction vs generalizing v with
  | nil =>
    have hv := h v List.mem_cons_self
    have hread := readLiteral_quote v
    rw [if_neg (by simpa using hv)] at hread
    simp [readItems_of_last hread]
  | cons w ws ih =>
    have hv := h v List.mem_cons_self
    have hread :=
      readLiteral_quote_append v (',' :: ' ' :: (", ".intercalate ((w :: ws).map quote)).toList)
    rw [if_neg (by simpa using hv)] at hread
    have hsep : ", ".toList = [',', ' '] := by decide
    rw [List.map_cons, List.map_cons, String.intercalate_cons_cons, ← List.map_cons,
      String.toList_append, String.toList_append,
      hsep, List.append_assoc, List.cons_append, List.cons_append, List.nil_append,
      readItems_of_sep hread, ih w fun x hx => h x (List.mem_cons_of_mem v hx)]
    rfl

/-- Quoting a string gives a literal that reads back as the string, nothing left over, exactly
when the string holds no line feed and no carriage return; when it holds one, the literal is
refused whatever follows it. Quoting is injective, and a list of quoted strings without line
breaks reads back as the list. -/
theorem quote_readBack :
    (∀ s : String, readLiteral (quote s).toList = some (utf16 s, []) ↔
      '\n' ∉ s.toList ∧ '\r' ∉ s.toList) ∧
    (∀ (s : String) (rest : List Char), '\n' ∈ s.toList ∨ '\r' ∈ s.toList →
      readLiteral ((quote s).toList ++ rest) = none) ∧
    Function.Injective quote ∧
    (∀ vs : List String, (∀ v ∈ vs, '\n' ∉ v.toList ∧ '\r' ∉ v.toList) →
      readLiteralList (quotedList vs).toList = some (vs.map utf16)) := by
  refine ⟨fun s => ?_, fun s rest h => by rw [readLiteral_quote_append, if_pos h],
    quote_injective, fun vs h => ?_⟩
  · rw [readLiteral_quote]
    by_cases hs : '\n' ∈ s.toList ∨ '\r' ∈ s.toList
    · rw [if_pos hs]
      exact iff_of_false (by simp) fun ⟨hn, hr⟩ => hs.elim hn hr
    · rw [if_neg hs]
      exact iff_of_true rfl (not_or.mp hs)
  · unfold quotedList
    cases vs with
    | nil => rfl
    | cons v vs =>
      have hitems := readItems_quoted v vs h
      have hne : (", ".intercalate ((v :: vs).map quote)).toList ≠ [] := by
        intro hnil
        rw [hnil, readItems_nil] at hitems
        cases hitems
      rw [readLiteralList, if_neg hne, hitems]

/-- A value with a line feed is quoted with the line feed raw, and the literal does not read. -/
theorem lineFeed_quote_unread : readLiteral (quote "a\nb").toList = none := by
  rw [readLiteral_quote, if_pos (by decide)]

end Render

end SchemaNorm
