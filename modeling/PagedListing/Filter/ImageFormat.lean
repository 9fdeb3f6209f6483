import PagedListing.Text.Blank
import PagedListing.Text.LetterCase

set_option autoImplicit false

/-!
# Image formats
-/

namespace PagedListing

open PagedListing.Text

inductive ImageFormat where
  | png
  | jpg
deriving DecidableEq, Repr

namespace ImageFormat

def name : ImageFormat → String
  | .png => "png"
  | .jpg => "jpg"

def ofName? (name : List Char) : Option ImageFormat :=
  if name = "png".toList then some .png
  else if name = "jpg".toList ∨ name = "jpeg".toList then some .jpg
  else none

/-- Reads a format. Letter case and blanks at the ends do not count. -/
def parse? (text : String) : Option ImageFormat := ofName? (lower (strip text.toList))

end ImageFormat

end PagedListing
