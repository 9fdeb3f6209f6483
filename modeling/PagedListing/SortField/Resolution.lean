import PagedListing.Projection
import PagedListing.SortField
import PagedListing.Text.LetterCase

set_option autoImplicit false

/-!
# Resolution of sort names

Callers may spell the names of a projection with any letter case and any underscores.
Resolution replaces each spelling by the registered name that it folds to.
-/

namespace PagedListing

/-- Fields that an ordering asks for and a projection does not have. -/
structure UnknownFields where
  unknown : List String
  allowed : List String
deriving DecidableEq, Repr

namespace UnknownFields

def message (fields : UnknownFields) : String :=
  "Unknown sort field(s): " ++ ", ".intercalate fields.unknown ++ ". Allowed: " ++
    ", ".intercalate fields.allowed ++ "."

end UnknownFields

namespace SortField

/-- What remains of a name when underscores and letter case do not count. -/
def fold (name : String) : List Char :=
  Text.lower (name.toList.filter (· ≠ '_'))

/-- The registered name that a spelling stands for: the last one with the same fold. -/
def registered? (names : List String) (spelling : String) : Option String :=
  names.reverse.find? fun name => fold name = fold spelling

def resolveField? (projection : Projection) (sort : SortField) : Option SortField :=
  (registered? projection.names sort.field).map fun name => { sort with field := name }

def unknownNames (projection : Projection) (fields : List SortField) : List String :=
  (fields.filter fun sort => (registered? projection.names sort.field).isNone).map field

/-- Replaces every name by the registered one, or lists the names for which there is
none. -/
def resolve (projection : Projection) (fields : List SortField) :
    Except UnknownFields (List SortField) :=
  match unknownNames projection fields with
  | [] => .ok (fields.filterMap (resolveField? projection))
  | unknown => .error ⟨unknown, projection.names⟩

theorem mem_of_registered? {names : List String} {spelling name : String}
    (found : registered? names spelling = some name) : name ∈ names := by
  simpa using List.mem_of_find?_eq_some found

end SortField

end PagedListing
