import PagedListing.Failure
import PagedListing.Number.Double
import PagedListing.Validation.Integer

set_option autoImplicit false

/-!
# Page results

The rows of one page with the totals of the whole listing. The number of pages comes from
a quotient that is rounded to a double first, so it is sure to be exact only up to `2 ^ 53`.
-/

namespace PagedListing.Pagination

open PagedListing.Validation

structure Result where
  data : List Value
  total : Int
  page : Int
  size : Int
  pages : Int
deriving Repr

namespace Result

/-- The number of pages for an integral total, at least one; `none` when the quotient is
too large for a double. -/
def pages? (total size : Int) : Option Int :=
  if 0 < size then (Number.ceilQuotient? total size.toNat).map (max 1) else some 1

def decimalPages (total : Number.Decimal) (size : Int) : Except Failure Int :=
  match Number.Double.ofInt? size with
  | none => .error .divisorTooLarge
  | some divisor =>
      match total.toDouble?.bind fun dividend => dividend.div? divisor with
      | none => .error .infiniteTotal
      | some quotient => .ok (max 1 quotient.ceil)

/-- The number of pages for the total that a session counts. -/
def pageCount (total : Value) (size : Int) : Except Failure Int :=
  if size ≤ 0 then .ok 1
  else
    match total with
    | .int total => (pages? total size).elim (.error .quotientTooLarge) .ok
    | .bool total => (pages? total.toInt size).elim (.error .quotientTooLarge) .ok
    | .decimal total => decimalPages total size
    | total => .error (.notDivisible total)

def build (data : List Value) (total : Value) (page size : Int) : Except Failure Result := do
  let pages ← pageCount total size
  let total ← (integerAt [.field "total"] total).mapError Failure.rejected
  return { data, total, page, size, pages }

end Result

end PagedListing.Pagination
