import PagedListing.Pagination.Result

set_option autoImplicit false

/-!
# Contents of responses

Values in the form in which they are sent. A page may not be nested too deeply, and nulls
stand for the infinities in it. Single records and lists of rows are sent without their
internal fields and may not hold infinities.
-/

namespace PagedListing.Http

mutual

/-- How many levels a value has: one, and those of the deepest value in it. -/
def nesting : Value → Nat
  | .list items => itemsNesting items + 1
  | .record fields => fieldsNesting fields + 1
  | _ => 1

def itemsNesting : List Value → Nat
  | [] => 0
  | item :: rest => max (nesting item) (itemsNesting rest)

def fieldsNesting : List (String × Value) → Nat
  | [] => 0
  | (_, value) :: rest => max (nesting value) (fieldsNesting rest)

end

mutual

def withoutInfinities : Value → Value
  | .decimal value => if value.isInfinite then .null else .decimal value
  | .list items => .list (itemsWithoutInfinities items)
  | .record fields => .record (fieldsWithoutInfinities fields)
  | value => value

def itemsWithoutInfinities : List Value → List Value
  | [] => []
  | item :: rest => withoutInfinities item :: itemsWithoutInfinities rest

def fieldsWithoutInfinities : List (String × Value) → List (String × Value)
  | [] => []
  | (name, value) :: rest => (name, withoutInfinities value) :: fieldsWithoutInfinities rest

end

def isInternal (name : String) : Bool := "_sa".toList.isPrefixOf name.toList

mutual

def withoutInternal : Value → Value
  | .list items => .list (itemsWithoutInternal items)
  | .record fields => .record (fieldsWithoutInternal fields)
  | value => value

def itemsWithoutInternal : List Value → List Value
  | [] => []
  | item :: rest => withoutInternal item :: itemsWithoutInternal rest

def fieldsWithoutInternal : List (String × Value) → List (String × Value)
  | [] => []
  | (name, value) :: rest =>
      if isInternal name then fieldsWithoutInternal rest
      else (name, withoutInternal value) :: fieldsWithoutInternal rest

end

def writable? (value : Value) : Option Value := if value.isWritable then some value else none

def pageValue (result : Pagination.Result) : Value :=
  .record [("data", .list result.data), ("total", .int result.total),
    ("page", .int result.page), ("page_size", .int result.size),
    ("total_pages", .int result.pages)]

def rowsValue (rows : List Record) : Value := .list (rows.map .record)

/-- The most levels that a row of a page may have: itself, and 255 for each cell. -/
def maxNesting : Nat := 256

def pageContent? (result : Pagination.Result) : Option Value :=
  if result.data.any fun row => maxNesting < nesting row then none
  else writable? (withoutInfinities (pageValue result))

def plainContent? (value : Value) : Option Value := writable? (withoutInternal value)

end PagedListing.Http
