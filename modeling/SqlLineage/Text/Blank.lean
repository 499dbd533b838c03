/-
Module: SqlLineage.Text.Blank
Purpose: The Unicode property White_Space and the trimming of it.
Main exports: isBlank, trimBy, isBlankText
-/

namespace SqlLineage.Text

/-- Whether a character is white space in the sense of Unicode. -/
def isBlank (c : Char) : Bool :=
  let code := c.toNat
  (9 ≤ code && code ≤ 13) || code == 32 || code == 0x85 || code == 0xA0 || code == 0x1680 ||
    (0x2000 ≤ code && code ≤ 0x200A) || code == 0x2028 || code == 0x2029 || code == 0x202F ||
    code == 0x205F || code == 0x3000

/-- The list without the characters at either end that satisfy the test. -/
def trimBy (p : Char → Bool) (cs : List Char) : List Char :=
  ((cs.dropWhile p).reverse.dropWhile p).reverse

/-- Whether a text holds white space only; the empty text does. -/
def isBlankText (s : String) : Bool := s.toList.all isBlank

end SqlLineage.Text
