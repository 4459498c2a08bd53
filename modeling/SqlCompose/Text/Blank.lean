/-!
# Blank characters

Two sets of blank characters are in use. The white space of Unicode is what surrounds a number
written as text; the wider set, with the four information separators as well, is what surrounds a
type tag. Trimming is the same for both (`trim`).
-/

namespace SqlCompose.Text

/-- Unicode's White_Space property. -/
def isWhiteSpace (c : Char) : Bool :=
  let n := c.toNat
  (0x09 ≤ n && n ≤ 0x0D) || n == 0x20 || n == 0x85 || n == 0xA0 || n == 0x1680 ||
    (0x2000 ≤ n && n ≤ 0x200A) || n == 0x2028 || n == 0x2029 || n == 0x202F || n == 0x205F ||
    n == 0x3000

/-- White space, or one of the four information separators. -/
def isBlank (c : Char) : Bool :=
  isWhiteSpace c || (0x1C ≤ c.toNat && c.toNat ≤ 0x1F)

/-- The list without the characters of the class at either end. -/
def trim (inClass : Char → Bool) (cs : List Char) : List Char :=
  ((cs.dropWhile inClass).reverse.dropWhile inClass).reverse

end SqlCompose.Text
