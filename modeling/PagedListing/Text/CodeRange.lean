set_option autoImplicit false

/-!
# Code point ranges

A property of characters is kept as a list of closed ranges of code points.
-/

namespace PagedListing.Text

/-- The first and the last code point of a closed range. -/
abbrev CodeRange := Nat × Nat

/-- Membership in one of several ranges, in any order. -/
def inRanges (ranges : List CodeRange) (c : Char) : Bool :=
  ranges.any fun range => range.1 ≤ c.toNat && c.toNat ≤ range.2

end PagedListing.Text
