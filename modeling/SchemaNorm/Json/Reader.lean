import SchemaNorm.Json.Value

/-!
Reading JSON text: strict RFC 8259 syntax. Blanks are space, tab, line feed and carriage
return; strings refuse raw control characters, and one with an unpaired surrogate escape
is read as `Json.unpairedStr` (a member name must be text); numbers follow
the JSON grammar and are kept as their literal text; nothing but blanks may follow the value.
The reader is recursive descent over the characters, driven by a fuel that the input length
bounds, since every nested call consumes at least one character.
-/

namespace SchemaNorm

namespace Json

/-- The blanks between JSON tokens. -/
def isBlank (c : Char) : Bool := c = ' ' || c = '\n' || c = '\t' || c = '\r'

/-- Drops leading blanks. -/
def skipBlanks (cs : List Char) : List Char := cs.dropWhile isBlank

/-- The value of a hexadecimal digit. -/
def hexValue? (c : Char) : Option Nat :=
  if '0' ≤ c ∧ c ≤ '9' then some (c.toNat - '0'.toNat)
  else if 'a' ≤ c ∧ c ≤ 'f' then some (c.toNat - 'a'.toNat + 10)
  else if 'A' ≤ c ∧ c ≤ 'F' then some (c.toNat - 'A'.toNat + 10)
  else none

/-- The code unit of four hexadecimal digits. -/
def hexUnit? (a b c d : Char) : Option Nat := do
  let a ← hexValue? a
  let b ← hexValue? b
  let c ← hexValue? c
  let d ← hexValue? d
  pure (((a * 16 + b) * 16 + c) * 16 + d)

/-- The code unit of a low surrogate escape at the front, which is six characters long. -/
def lowSurrogate? : List Char → Option Nat
  | '\\' :: 'u' :: a :: b :: c :: d :: _ =>
    match hexUnit? a b c d with
    | some v => if 0xDC00 ≤ v ∧ v ≤ 0xDFFF then some v else none
    | none => none
  | _ => none

/-- The rest of a string after its opening quote; `acc` holds the characters read, last
first, and `whole` says no unpaired surrogate escape was met. A high surrogate escape followed
by a low one is one character; any other surrogate escape is well-formed but leaves the string
without text, which the result gives as `none`. -/
def readString (acc : List Char) (whole : Bool) : List Char → Option (Option String × List Char)
  | '"' :: rest => some (if whole then some (String.ofList acc.reverse) else none, rest)
  | '\\' :: '"' :: rest => readString ('"' :: acc) whole rest
  | '\\' :: '\\' :: rest => readString ('\\' :: acc) whole rest
  | '\\' :: '/' :: rest => readString ('/' :: acc) whole rest
  | '\\' :: 'b' :: rest => readString ('\x08' :: acc) whole rest
  | '\\' :: 'f' :: rest => readString ('\x0c' :: acc) whole rest
  | '\\' :: 'n' :: rest => readString ('\n' :: acc) whole rest
  | '\\' :: 'r' :: rest => readString ('\r' :: acc) whole rest
  | '\\' :: 't' :: rest => readString ('\t' :: acc) whole rest
  | '\\' :: 'u' :: a :: b :: c :: d :: rest =>
    match hexUnit? a b c d with
    | none => none
    | some u =>
      if 0xDC00 ≤ u ∧ u ≤ 0xDFFF then readString acc false rest
      else if 0xD800 ≤ u ∧ u ≤ 0xDBFF then
        match lowSurrogate? rest with
        | some v =>
          readString (Char.ofNat (0x10000 + (u - 0xD800) * 0x400 + (v - 0xDC00)) :: acc)
            whole (rest.drop 6)
        | none => readString acc false rest
      else readString (Char.ofNat u :: acc) whole rest
  | '\\' :: _ => none
  | c :: rest => if c.toNat < 0x20 then none else readString (c :: acc) whole rest
  | [] => none
termination_by cs => cs.length

/-- Splits off a run of ASCII digits. -/
def spanDigits (cs : List Char) : List Char × List Char :=
  (cs.takeWhile Char.isDigit, cs.dropWhile Char.isDigit)

/-- A number literal: `-`, then `0` or a nonzero digit and more digits, then optionally a
point and digits, then optionally `e` or `E`, a sign and digits. -/
def readNumber (cs : List Char) : Option (String × List Char) :=
  let (sign, cs) := match cs with
    | '-' :: r => (['-'], r)
    | r => ([], r)
  let intPart : Option (List Char × List Char) := match cs with
    | '0' :: r => some (['0'], r)
    | c :: _ => if c.isDigit then some (spanDigits cs) else none
    | [] => none
  match intPart with
  | none => none
  | some (whole, cs) =>
    let fracPart : Option (List Char × List Char) := match cs with
      | '.' :: r =>
        let (ds, r') := spanDigits r
        if ds.isEmpty then none else some ('.' :: ds, r')
      | r => some ([], r)
    match fracPart with
    | none => none
    | some (frac, cs) =>
      let expPart : Option (List Char × List Char) := match cs with
        | e :: r =>
          if e = 'e' ∨ e = 'E' then
            let (s, r) := match r with
              | '+' :: r' => (['+'], r')
              | '-' :: r' => (['-'], r')
              | r' => ([], r')
            let (ds, r') := spanDigits r
            if ds.isEmpty then none else some (e :: s ++ ds, r')
          else some ([], cs)
        | [] => some ([], [])
      match expPart with
      | none => none
      | some (ex, rest) => some (String.ofList (sign ++ whole ++ frac ++ ex), rest)

mutual

/-- One value after optional blanks, with the text after it. -/
def readValue : Nat → List Char → Option (Json × List Char)
  | 0, _ => none
  | fuel + 1, cs =>
    match skipBlanks cs with
    | 'n' :: 'u' :: 'l' :: 'l' :: rest => some (.null, rest)
    | 't' :: 'r' :: 'u' :: 'e' :: rest => some (.bool true, rest)
    | 'f' :: 'a' :: 'l' :: 's' :: 'e' :: rest => some (.bool false, rest)
    | '"' :: rest => (readString [] true rest).map fun (s, r) => (Json.ofText? s, r)
    | '[' :: rest =>
      match skipBlanks rest with
      | ']' :: r => some (.arr [], r)
      | _ => readItems fuel [] rest
    | '{' :: rest =>
      match skipBlanks rest with
      | '}' :: r => some (.obj [], r)
      | _ => readFields fuel [] rest
    | cs' => (readNumber cs').map fun (s, r) => (.num s, r)

/-- Array items after `[` or a comma; `acc` holds the items read, last first. -/
def readItems : Nat → List Json → List Char → Option (Json × List Char)
  | 0, _, _ => none
  | fuel + 1, acc, cs =>
    match readValue fuel cs with
    | none => none
    | some (v, rest) =>
      match skipBlanks rest with
      | ',' :: r => readItems fuel (v :: acc) r
      | ']' :: r => some (.arr (v :: acc).reverse, r)
      | _ => none

/-- Object members after `{` or a comma; `acc` holds the members read, last first. -/
def readFields : Nat → List (String × Json) → List Char → Option (Json × List Char)
  | 0, _, _ => none
  | fuel + 1, acc, cs =>
    match skipBlanks cs with
    | '"' :: rest =>
      match readString [] true rest with
      | none | some (none, _) => none
      | some (some name, rest) =>
        match skipBlanks rest with
        | ':' :: rest =>
          match readValue fuel rest with
          | none => none
          | some (v, rest) =>
            match skipBlanks rest with
            | ',' :: r => readFields fuel ((name, v) :: acc) r
            | '}' :: r => some (.obj ((name, v) :: acc).reverse, r)
            | _ => none
        | _ => none
    | _ => none

end

/-- Reads a whole JSON text; `none` when it is not exactly one value between blanks. -/
def parse? (s : String) : Option Json :=
  let cs := s.toList
  match readValue (cs.length + 1) cs with
  | some (v, rest) => if (skipBlanks rest).isEmpty then some v else none
  | none => none

/-- How deeply arrays and objects nest: zero for a scalar. -/
def depth : Json → Nat
  | .arr items => 1 + depthItems items
  | .obj fields => 1 + depthFields fields
  | _ => 0
where
  depthItems : List Json → Nat
    | [] => 0
    | j :: js => max (depth j) (depthItems js)
  depthFields : List (String × Json) → Nat
    | [] => 0
    | (_, j) :: fs => max (depth j) (depthFields fs)

end Json

end SchemaNorm
