/-!
Base64 text, in the standard alphabet with `=` padding, decoded to bytes, and to text when
the bytes are UTF-8. Blanks and line breaks between the characters are skipped, since an
encoding written in a document may be folded across lines. The encoding must be canonical:
the padding completes the last group of four, and the bits that padding leaves over are zero.
-/

namespace SchemaNorm

namespace Base64

/-- The six-bit value of a character of the alphabet. -/
def sextet? (c : Char) : Option Nat :=
  if 'A' ≤ c ∧ c ≤ 'Z' then some (c.toNat - 'A'.toNat)
  else if 'a' ≤ c ∧ c ≤ 'z' then some (c.toNat - 'a'.toNat + 26)
  else if '0' ≤ c ∧ c ≤ '9' then some (c.toNat - '0'.toNat + 52)
  else if c = '+' then some 62
  else if c = '/' then some 63
  else none

/-- The bytes of groups of four characters; only the last group may be padded. -/
def decodeGroups : List Char → Option (List UInt8)
  | [] => some []
  | [a, b, '=', '='] => do
    let x ← sextet? a
    let y ← sextet? b
    if y % 16 = 0 then pure [UInt8.ofNat (x * 4 + y / 16)] else none
  | [a, b, c, '='] => do
    let x ← sextet? a
    let y ← sextet? b
    let z ← sextet? c
    if z % 4 = 0 then pure [UInt8.ofNat (x * 4 + y / 16), UInt8.ofNat (y % 16 * 16 + z / 4)]
    else none
  | a :: b :: c :: d :: rest => do
    let x ← sextet? a
    let y ← sextet? b
    let z ← sextet? c
    let w ← sextet? d
    let more ← decodeGroups rest
    pure (UInt8.ofNat (x * 4 + y / 16) :: UInt8.ofNat (y % 16 * 16 + z / 4) ::
      UInt8.ofNat (z % 4 * 64 + w) :: more)
  | _ => none

/-- Whether a character is skipped between the characters of an encoding. -/
def isSkipped (c : Char) : Bool := c = ' ' || c = '\t' || c = '\n' || c = '\r'

/-- The bytes an encoding stands for. -/
def decode? (s : String) : Option (List UInt8) := decodeGroups (s.toList.filter (!isSkipped ·))

/-- The text an encoding stands for, when its bytes are UTF-8. -/
def decodeText? (s : String) : Option String :=
  (decode? s).bind fun bytes => String.fromUTF8? ⟨bytes.toArray⟩

end Base64

end SchemaNorm
