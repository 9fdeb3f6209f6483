import PagedListing.Projection
import PagedListing.Query.Condition
import PagedListing.SortField

set_option autoImplicit false

/-!
# Query builders

A builder gathers conditions and an ordering for one projection. The count, page, list
and lookup queries are written from what it has gathered, and writing changes nothing.
-/

namespace PagedListing

/-- The text of a query with numbered marks, and the arguments they stand for. -/
structure Query where
  sql : String
  arguments : List Value
deriving Repr

/-- One call that narrows or reorders a listing. Absent values narrow nothing. -/
inductive Refinement where
  | whereEquals (field : String) (value : Value)
  | whereContains (field : String) (text : Option String)
  | whereIn (field : String) (values : List Value)
  | whereSearch (text : Option String) (fields : List String)
  | orderBy (field : String) (descending : Bool)
  | orderByFields (fields : List SortField)
deriving Repr

/-- What has been gathered for one projection. -/
structure Builder where
  projection : Projection
  defaultSort : List SortField := []
  explicitSort : List SortField := []
  conditions : List Condition := []
deriving Repr

namespace Builder

/-- The condition that a call adds, if its value is present. -/
def condition? (projection : Projection) : Refinement → Option Condition
  | .whereEquals _ .null => none
  | .whereEquals field value => some (.equals (projection.column field) value)
  | .whereContains field (some text) =>
      if text = "" then none else some (.contains (projection.column field) text)
  | .whereIn field values =>
      if values.isEmpty then none else some (.oneOf (projection.column field) values)
  | .whereSearch (some text) fields =>
      if text = "" ∨ fields = [] then none
      else some (.anyContains (fields.map projection.column) text)
  | _ => none

/-- The ordering that a call sets, if it sets one. An empty ordering clears it. -/
def ordering? : Refinement → Option (List SortField)
  | .orderBy field descending => some (if field = "" then [] else [⟨field, descending⟩])
  | .orderByFields fields => some fields
  | _ => none

def refine (builder : Builder) (call : Refinement) : Builder :=
  { builder with
    conditions := builder.conditions ++ (condition? builder.projection call).toList
    explicitSort := (ordering? call).getD builder.explicitSort }

def refineAll (builder : Builder) (calls : List Refinement) : Builder :=
  calls.foldl refine builder

/-- The ordering in effect: the one that was set, else the default. -/
def sort (builder : Builder) : List SortField :=
  if builder.explicitSort.isEmpty then builder.defaultSort else builder.explicitSort

def whereClause (builder : Builder) : String :=
  if builder.conditions.isEmpty then "" else " WHERE " ++ Condition.conjunction builder.conditions

def orderTerm (projection : Projection) (sort : SortField) : String :=
  projection.column sort.field ++ " " ++ sort.direction

def orderClause (builder : Builder) : String :=
  if builder.sort.isEmpty then ""
  else " ORDER BY " ++ ", ".intercalate (builder.sort.map (orderTerm builder.projection))

def selection (builder : Builder) : String :=
  "SELECT " ++ builder.projection.selectList ++ " FROM " ++ builder.projection.table

def arguments (builder : Builder) : List Value := Condition.argumentsOf builder.conditions

def count (builder : Builder) : Query :=
  ⟨"SELECT COUNT(*) FROM " ++ builder.projection.table ++ builder.whereClause,
    builder.arguments⟩

def all (builder : Builder) : Query :=
  ⟨builder.selection ++ builder.whereClause ++ builder.orderClause, builder.arguments⟩

/-- Selects one page of the rows that satisfy the conditions, unless a bound of the
page is too long to write. Pages are counted from one. -/
def page? (builder : Builder) (page size : Int) : Option Query := do
  let limit ← Number.numeral? size
  let offset ← Number.numeral? ((page - 1) * size)
  return ⟨builder.all.sql ++ " LIMIT " ++ limit ++ " OFFSET " ++ offset, builder.arguments⟩

/-- Selects the rows with a given value of one field, whatever has been gathered. -/
def single (builder : Builder) (field : String) (value : Value) : Query :=
  ⟨builder.selection ++ " WHERE " ++ builder.projection.column field ++ " = " ++ placeholder 1,
    [value]⟩

@[simp]
theorem projection_refineAll (builder : Builder) (calls : List Refinement) :
    (builder.refineAll calls).projection = builder.projection := by
  induction calls generalizing builder with
  | nil => rfl
  | cons call rest ih => exact ih (builder.refine call)

/-- The conditions after several calls are those of each call in turn. -/
theorem conditions_refineAll (builder : Builder) (calls : List Refinement) :
    (builder.refineAll calls).conditions =
      builder.conditions ++ calls.filterMap (condition? builder.projection) := by
  induction calls generalizing builder with
  | nil => simp [refineAll]
  | cons call rest ih =>
      have step := ih (builder.refine call)
      simp only [refineAll, List.foldl_cons] at step ⊢
      rw [step]
      cases added : condition? builder.projection call <;> simp [refine, added]

end Builder

end PagedListing
