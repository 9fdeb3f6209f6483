import PagedListing.Number.Reading

set_option autoImplicit false

/-!
# The environment

Variables that the surroundings of the program set, each with a text.
-/

namespace PagedListing

abbrev Environment := List (String × String)

namespace Environment

def get? (environment : Environment) (name : String) : Option String :=
  environment.lookup name

def getOr (environment : Environment) (name fallback : String) : String :=
  (environment.get? name).getD fallback

/-- The integer in a variable. A variable that is empty or holds no integer counts as
not set. -/
def int? (environment : Environment) (name : String) : Option Int :=
  match environment.get? name with
  | some text => if text = "" then none else Number.readInt? text
  | none => none

end Environment

end PagedListing
