set_option autoImplicit false

/-!
# Code points

Texts that may hold surrogates, which are no characters, are kept as lists of code points.
-/

namespace PagedListing.Text

/-- The number of a character or of a surrogate. -/
abbrev CodePoint := Nat

def codePoints (text : List Char) : List CodePoint := text.map Char.toNat

end PagedListing.Text
