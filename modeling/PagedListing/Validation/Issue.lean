set_option autoImplicit false

/-!
# Issues

What is wrong with a submitted value, and where in the submission it stands.
-/

namespace PagedListing.Validation

inductive Step where
  | field (name : String)
  | item (index : Nat)
deriving DecidableEq, Repr

inductive IssueKind where
  | notInteger
  | unreadableInteger
  | integerTooLong
  | fractional
  | infinite
  | notText
  | notBoolean
  | unreadableBoolean
  | missing
  | notRecord
  | notSort
deriving DecidableEq, Repr

namespace IssueKind

def code : IssueKind → String
  | .notInteger => "int_type"
  | .unreadableInteger => "int_parsing"
  | .integerTooLong => "int_parsing_size"
  | .fractional => "int_from_float"
  | .infinite => "finite_number"
  | .notText => "string_type"
  | .notBoolean => "bool_type"
  | .unreadableBoolean => "bool_parsing"
  | .missing => "missing"
  | .notRecord => "dataclass_type"
  | .notSort => "value_error"

/-- The remark that is reported with an issue whose code does not say enough. -/
def remark? : IssueKind → Option String
  | .notSort => some "Value error, sort must be a sort string or a list of sort fields"
  | _ => none

end IssueKind

structure Issue where
  path : List Step
  kind : IssueKind
deriving DecidableEq, Repr

/-- What reading a part of a submission leads to: its value, or all that is wrong. -/
abbrev Reading (α : Type) := Except (List Issue) α

namespace Reading

def issues {α : Type} : Reading α → List Issue
  | .ok _ => []
  | .error issues => issues

def refuse {α : Type} (path : List Step) (kind : IssueKind) : Reading α :=
  .error [⟨path, kind⟩]

/-- Reads the parts of a list, gathering all that is wrong. -/
def all {α : Type} : List (Reading α) → Reading (List α)
  | [] => .ok []
  | .ok value :: rest => (all rest).map (value :: ·)
  | .error found :: rest => .error (found ++ (all rest).issues)

end Reading

end PagedListing.Validation
