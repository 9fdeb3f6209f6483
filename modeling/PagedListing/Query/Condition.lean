import PagedListing.Value

set_option autoImplicit false

/-!
# Conditions

A condition on one row with the values it compares to. The values stay out of the text:
the text has numbered marks, and the arguments are listed beside it in the same order.
-/

namespace PagedListing

/-- The mark that stands for the argument of a given number, counted from one. -/
def placeholder (number : Nat) : String := "$" ++ number.repr

inductive Condition where
  | equals (column : String) (value : Value)
  | contains (column : String) (text : String)
  | oneOf (column : String) (values : List Value)
  | anyContains (columns : List String) (text : String)
deriving Repr

namespace Condition

def pattern (text : String) : Value := .text ("%" ++ text ++ "%")

/-- The values that a condition compares to, in the order of its marks. -/
def arguments : Condition → List Value
  | .equals _ value => [value]
  | .contains _ text => [pattern text]
  | .oneOf _ values => values
  | .anyContains columns text => columns.map fun _ => pattern text

def placeholders (first : Nat) : Nat → List String
  | 0 => []
  | count + 1 => placeholder first :: placeholders (first + 1) count

/-- A comparison of each column with a pattern of its own, under consecutive marks. -/
def comparisons (first : Nat) : List String → List String
  | [] => []
  | column :: rest => (column ++ " ILIKE " ++ placeholder first) :: comparisons (first + 1) rest

/-- The text of a condition whose marks are numbered from `first`. -/
def render (first : Nat) : Condition → String
  | .equals column _ => column ++ " = " ++ placeholder first
  | .contains column _ => column ++ " ILIKE " ++ placeholder first
  | .oneOf column values =>
      column ++ " IN (" ++ ", ".intercalate (placeholders first values.length) ++ ")"
  | .anyContains columns _ => "(" ++ " OR ".intercalate (comparisons first columns) ++ ")"

/-- The texts of several conditions under marks that run on from one to the next. -/
def renderFrom (first : Nat) : List Condition → List String
  | [] => []
  | condition :: rest =>
      condition.render first :: renderFrom (first + condition.arguments.length) rest

def argumentsOf (conditions : List Condition) : List Value :=
  conditions.flatMap arguments

/-- The texts of several conditions, all of which must hold. -/
def conjunction (conditions : List Condition) : String :=
  " AND ".intercalate (renderFrom 1 conditions)

theorem argumentsOf_append (before after : List Condition) :
    argumentsOf (before ++ after) = argumentsOf before ++ argumentsOf after := by
  simp [argumentsOf]

theorem renderFrom_append (first : Nat) (before after : List Condition) :
    renderFrom first (before ++ after) =
      renderFrom first before ++ renderFrom (first + (argumentsOf before).length) after := by
  induction before generalizing first with
  | nil => simp [renderFrom, argumentsOf]
  | cons condition rest ih =>
      simp [renderFrom, argumentsOf, ih, List.length_append, Nat.add_assoc]

end Condition

end PagedListing
