import PagedListing.Pagination.Config
import PagedListing.Resource
import PagedListing.SortField.Resolution
import PagedListing.Uuid
import PagedListing.Validation.Issue
import PagedListing.Value

set_option autoImplicit false

/-!
# Failures

Everything that can go wrong with a listing or a lookup, by cause, with the report on it
and the kind by which callers tell it from others.
-/

namespace PagedListing

inductive FailureKind where
  | notFound (resource : Option Resource)
  | duplicate
  | repository
  | integrity
  | noRow
  | unknownSort
  | invalidInput
  | invalidValue
  | invalidType
  | overflow
  | missingKey
  | memory
  | system
  | runtime
  | rejected
deriving DecidableEq, Repr

/-- What a database reports about a constraint that a statement violates. Its code comes
under either of two names. -/
structure Violation where
  report : String
  sqlState : Option String := none
  pgCode : Option String := none
deriving DecidableEq, Repr

namespace Violation

def uniqueness : String := "23505"

/-- The code of a violation. An empty one under the first name does not count. -/
def code? (violation : Violation) : Option String :=
  (violation.sqlState.filter (· ≠ "")).or violation.pgCode

end Violation

inductive Failure where
  | reported (kind : FailureKind) (report : Option String)
  | violated (violation : Option Violation)
  | unusablePageSizes (problem : Pagination.Problem)
  | unknownFields (fields : UnknownFields)
  | malformedId (text : String)
  | rowTooShort
  | rowTooLong
  | numeralTooLong
  | notDivisible (total : Value)
  | quotientTooLarge
  | divisorTooLarge
  | infiniteTotal
  | rejected (issues : List Validation.Issue)
deriving Repr

namespace Failure

def kind : Failure → FailureKind
  | .reported kind _ => kind
  | .violated _ => .integrity
  | .unknownFields _ => .unknownSort
  | .malformedId _ => .invalidInput
  | .unusablePageSizes _ | .rowTooShort | .rowTooLong | .numeralTooLong => .invalidValue
  | .notDivisible _ => .invalidType
  | .quotientTooLarge | .divisorTooLarge | .infiniteTotal => .overflow
  | .rejected _ => .rejected

/-- The report on a failure of some kind. Kinds with a report of their own use it where
none or an empty one is given. -/
def reportOf (kind : FailureKind) (report : Option String) : String :=
  match kind with
  | .notFound resource =>
      (report.filter (· ≠ "")).getD
        (match resource with
          | some resource => resource.missing
          | none => "record not found")
  | .duplicate => (report.filter (· ≠ "")).getD "record already exists"
  | .noRow => report.getD "()"
  | .missingKey =>
      match report with
      | some report => String.ofList (Text.quoted report.toList)
      | none => ""
  | _ => report.getD ""

def message : Failure → String
  | .reported kind report => reportOf kind report
  | .violated (some violation) => violation.report
  | .violated none => "None"
  | .unusablePageSizes problem => problem.message
  | .unknownFields fields => fields.message
  | .malformedId text => Uuid.malformed text
  | .rowTooShort => "zip() argument 2 is shorter than argument 1"
  | .rowTooLong => "zip() argument 2 is longer than argument 1"
  | .numeralTooLong => Number.tooLongToWrite
  | .notDivisible total =>
      "unsupported operand type(s) for /: '" ++ total.kindName ++ "' and 'int'"
  | .quotientTooLarge => "integer division result too large for a float"
  | .divisorTooLarge => "int too large to convert to float"
  | .infiniteTotal => "cannot convert float infinity to integer"
  | .rejected issues => issues.length.repr ++ " issues"

def missing (resource : Resource) : Failure := .reported (.notFound (some resource)) none

def isNotFound (failure : Failure) : Bool :=
  match failure.kind with
  | .notFound _ => true
  | _ => false

def isInvalidInput (failure : Failure) : Bool :=
  match failure.kind with
  | .invalidInput | .unknownSort => true
  | _ => false

/-- The failure that takes the place of one that a session reports: missing rows become
`notFound`, violated uniqueness becomes `duplicateKind` where one is named. Any other failure
keeps its place. -/
def replacement? (failure : Failure) (notFound : FailureKind)
    (duplicateKind : Option FailureKind) : Option Failure :=
  if failure.isNotFound ∨ failure.kind = .noRow then some (.reported notFound none)
  else
    match failure, duplicateKind with
    | .violated (some violation), some kind =>
        if violation.code? = some Violation.uniqueness then
          some (.reported kind (some violation.report))
        else none
    | _, _ => none

end Failure

end PagedListing
