import PagedListing.Number.Reading

set_option autoImplicit false

/-!
# Integers that may be absent

Readers for texts that a caller may leave out. What cannot be read is treated as if it
had been left out.
-/

namespace PagedListing.Number

open PagedListing.Text

/-- The integer in a text; a text that is absent, blank or unreadable holds none. -/
def optionalInt (text : Option String) : Option Int :=
  match text with
  | some text => if (strip text.toList).isEmpty then none else readInt? text
  | none => none

def intOr (text : Option String) (fallback : Int) : Int :=
  match text with
  | some text => (readInt? text).getD fallback
  | none => fallback

end PagedListing.Number
