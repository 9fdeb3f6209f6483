set_option autoImplicit false

/-!
# Query parameters

The named values of a request. Of several values under one name only the last counts.
-/

namespace PagedListing

/-- Named values in the order in which they were given. -/
abbrev Params := List (String × String)

namespace Params

/-- The last value given under a name. -/
def get? (params : Params) (name : String) : Option String :=
  params.reverse.lookup name

/-- The last value given under a name, where an empty text counts as no value. -/
def text? (params : Params) (name : String) : Option String :=
  match params.get? name with
  | some text => if text = "" then none else some text
  | none => none

end Params

end PagedListing
