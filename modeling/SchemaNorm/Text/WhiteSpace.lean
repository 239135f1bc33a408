/-!
The Unicode `White_Space` property, which trimming and the blank class of patterns use, and
trimming by it. The property holds of 25 characters: the ASCII controls tab to carriage
return, space, next line, no-break space, ogham space mark, the spaces from en quad to hair
space, line and paragraph separators, narrow no-break space, medium mathematical space and
ideographic space.
-/

namespace SchemaNorm

namespace Text

/-- Whether a character has the Unicode `White_Space` property. -/
def isWhiteSpace (c : Char) : Bool :=
  let n := c.toNat
  (0x09 ≤ n && n ≤ 0x0D) || n == 0x20 || n == 0x85 || n == 0xA0 || n == 0x1680 ||
  (0x2000 ≤ n && n ≤ 0x200A) || n == 0x2028 || n == 0x2029 || n == 0x202F ||
  n == 0x205F || n == 0x3000

/-- The string without leading and trailing white space. -/
def trim (s : String) : String :=
  String.ofList ((s.toList.dropWhile isWhiteSpace).reverse.dropWhile isWhiteSpace).reverse

/-- The string without trailing white space. -/
def trimEnd (s : String) : String :=
  String.ofList (s.toList.reverse.dropWhile isWhiteSpace).reverse

end Text

end SchemaNorm
