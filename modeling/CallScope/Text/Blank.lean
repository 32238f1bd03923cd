/-!
# Blank text

Identifiers, operation names and metric names must hold something to read.
Blank is meant in the sense of Unicode's `White_Space` property, so that a
name of no-break or ideographic spaces counts as empty too, and numerals
given as text are read with such characters around them removed.
-/

namespace CallScope.Text

/-- The characters with Unicode's `White_Space` property. -/
def isBlankChar (c : Char) : Bool :=
  let n := c.toNat
  (9 ≤ n && n ≤ 13) || n == 0x20 || n == 0x85 || n == 0xA0 || n == 0x1680
    || (0x2000 ≤ n && n ≤ 0x200A) || n == 0x2028 || n == 0x2029 || n == 0x202F
    || n == 0x205F || n == 0x3000

/-- Nothing but blank characters. -/
def isBlank (s : String) : Bool := s.toList.all isBlankChar

/-- The characters left when blank ones are removed at both ends. -/
def trim (s : List Char) : List Char :=
  ((s.dropWhile isBlankChar).reverse.dropWhile isBlankChar).reverse

end CallScope.Text
