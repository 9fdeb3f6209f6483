set_option autoImplicit false

/-!
# Blank characters

The characters removed from both ends of a text before it is looked at. Numerals use a
smaller set: the four control separators U+001C to U+001F are not blank around a number.
-/

namespace PagedListing.Text

/-- Tabs and line ends, the control separators, the space, and the spaces and line
separators of other scripts. -/
def isBlank (c : Char) : Bool :=
  let code := c.toNat
  (0x09 ≤ code && code ≤ 0x0D) || (0x1C ≤ code && code ≤ 0x20) || code == 0x85 ||
    code == 0xA0 || code == 0x1680 || (0x2000 ≤ code && code ≤ 0x200A) ||
    code == 0x2028 || code == 0x2029 || code == 0x202F || code == 0x205F || code == 0x3000

def isNumeralBlank (c : Char) : Bool :=
  isBlank c && !(0x1C ≤ c.toNat && c.toNat ≤ 0x1F)

/-- Drops the longest run at each end whose characters satisfy `drop`. -/
def trim (drop : Char → Bool) (text : List Char) : List Char :=
  ((text.dropWhile drop).reverse.dropWhile drop).reverse

def strip (text : List Char) : List Char := trim isBlank text

end PagedListing.Text
