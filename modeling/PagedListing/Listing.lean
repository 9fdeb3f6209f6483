import PagedListing.Filter
import PagedListing.Pagination.Request
import PagedListing.Pagination.Result
import PagedListing.Session

set_option autoImplicit false

/-!
# Listings

One page of a resource takes two statements: one counts the rows that satisfy search and
filter, the other selects the page. An ordering is resolved before either is executed.
-/

namespace PagedListing.Listing

open PagedListing.Pagination

/-- The calls that a request and a filter make on a builder. A request without an
ordering leaves the default one in place. -/
def refinements (resource : Resource) (request : Request) (filter : Option Filter) :
    List Refinement :=
  .whereSearch request.search resource.searchFields ::
    (filter.elim [] Filter.refinements ++
      if request.sort.isEmpty then [] else [.orderByFields request.sort])

/-- The builder for a request, whose ordering is taken as it stands. -/
def builder (resource : Resource) (request : Request) (filter : Option Filter) : Builder :=
  Builder.refineAll { projection := resource.projection, defaultSort := resource.defaultSort }
    (refinements resource request filter)

def prepare (resource : Resource) (config : Config) (request : Request) :
    Except Failure Request :=
  match SortField.resolve resource.projection request.sort with
  | .ok sort => .ok { request.normalize config with sort }
  | .error fields => .error (.unknownFields fields)

/-- A count that is missing or empty counts as zero. -/
def countOf (cell : Value) : Value := if cell.isPresent then cell else .int 0

def fetch (resource : Resource) (request : Request) (filter : Option Filter) :
    SessionM Result := do
  let builder := builder resource request filter
  let total ← Session.fetchScalar builder.count
  match builder.page? request.page request.size with
  | none => throw .numeralTooLong
  | some query =>
      let rows ← Session.fetchMany query resource.projection
      Result.build (rows.map .record) (countOf total) request.page request.size

def list (resource : Resource) (config : Config) (request : Request) (filter : Option Filter) :
    SessionM Result := do
  let prepared ← prepare resource config request
  fetch resource prepared filter

end PagedListing.Listing
