import PagedListing.Query.Builder
import PagedListing.Text.Digit

set_option autoImplicit false

/-!
# Statements

A query as it is executed: numbered marks become named parameters, and each argument is
listed under the name of its parameter.
-/

namespace PagedListing

open PagedListing.Text

structure Statement where
  sql : String
  parameters : List (String × Value)
deriving Repr

namespace Statement

def startsWithDigit : List Char → Bool
  | [] => false
  | c :: _ => isDigit c

/-- Turns each dollar sign in front of a digit into the mark of a named parameter. -/
def nameMarks : List Char → List Char
  | [] => []
  | c :: rest =>
      if c = '$' ∧ startsWithDigit rest = true then ':' :: 'p' :: nameMarks rest
      else c :: nameMarks rest

def parameterName (number : Nat) : String := "p" ++ number.repr

/-- The arguments under the names of their positions, counted from `first`. -/
def nameArguments (first : Nat) : List Value → List (String × Value)
  | [] => []
  | value :: rest => (parameterName first, value) :: nameArguments (first + 1) rest

end Statement

def Query.bind (query : Query) : Statement :=
  ⟨String.ofList (Statement.nameMarks query.sql.toList),
    Statement.nameArguments 1 query.arguments⟩

end PagedListing
