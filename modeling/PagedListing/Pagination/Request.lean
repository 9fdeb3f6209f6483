import PagedListing.Number.Optional
import PagedListing.Pagination.Config
import PagedListing.Params
import PagedListing.SortField

set_option autoImplicit false

/-!
# Page requests

What a client asks a listing for. Requests that come as query parameters cannot fail:
numbers that are unreadable are replaced and numbers that are out of range are clamped.
-/

namespace PagedListing.Pagination

/-- A request for one page. Pages are counted from one. -/
structure Request where
  page : Int := 1
  size : Int := 0
  search : Option String := none
  sort : List SortField := []
deriving DecidableEq, Repr

namespace Request

/-- An empty search asks for nothing. -/
def presentSearch (search : Option String) : Option String :=
  search.filter (· ≠ "")

def sortOf (sort : Option String) : List SortField :=
  match sort with
  | some text => SortField.parse text
  | none => []

def clampSize (config : Config) (size : Int) : Int :=
  let chosen := if size < 1 then config.defaultSize else size
  if config.maxSize < chosen then config.maxSize else chosen

def normalize (config : Config) (request : Request) : Request :=
  { request with
    page := if request.page < 1 then 1 else request.page
    size := clampSize config request.size }

/-- How many rows come before the page. -/
def offset (request : Request) : Int := (request.page - 1) * request.size

def ofParams (params : Params) (config : Config) : Request :=
  normalize config
    { page := Number.intOr (params.get? "page") 1
      size := Number.intOr (params.get? "page_size") config.defaultSize
      search := presentSearch (params.get? "search")
      sort := sortOf (params.get? "sort") }

theorem one_le_page_normalize (config : Config) (request : Request) :
    1 ≤ (request.normalize config).page := by
  unfold normalize
  dsimp only
  split <;> omega

theorem clampSize_le (config : Config) (size : Int) : clampSize config size ≤ config.maxSize := by
  unfold clampSize
  dsimp only
  split <;> omega

end Request

end PagedListing.Pagination
