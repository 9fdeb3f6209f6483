import PagedListing.Listing
import PagedListing.Lookup

set_option autoImplicit false

/-!
# Services

A service answers calls on one resource. It takes its page sizes from the environment of
the first call that needs them and keeps them from then on.
-/

namespace PagedListing

open PagedListing.Pagination

/-- A service with its page sizes, once they are known. -/
structure Service where
  resource : Resource
  pagination : Option Config := none
deriving Repr

namespace Service

inductive Call where
  | list (request : Request) (filter : Option Filter)
  | builder (request : Request) (filter : Option Filter)
  | pagination
  | find (id : String)
  | stages (id : String)
  | decisions (id : String)
deriving Repr

inductive Answer where
  | page (result : Result)
  | query (query : Query)
  | config (config : Config)
  | row (row : Record)
  | rows (rows : List Record)
deriving Repr

def config (service : Service) (environment : Environment) : Except Problem Config :=
  match service.pagination with
  | some config => .ok config
  | none => Config.ofSettings { } environment

def Call.needsConfig : Call → Bool
  | .list _ _ | .pagination => true
  | _ => false

/-- The service after a call, which knows its page sizes if the call needed them. -/
def after (service : Service) (environment : Environment) (call : Call) : Service :=
  if call.needsConfig then
    { service with pagination := (service.config environment).toOption.or service.pagination }
  else service

/-- Page sizes in use, or the failure to find usable ones. -/
def usable (service : Service) (environment : Environment) : Except Failure Config :=
  (service.config environment).mapError .unusablePageSizes

def answer (service : Service) (environment : Environment) : Call → SessionM Answer
  | .list request filter => do
      let config ← usable service environment
      .page <$> Listing.list service.resource config request filter
  | .builder request filter =>
      return .query (Listing.builder service.resource request filter).all
  | .pagination => do
      let config ← usable service environment
      return .config config
  | .find id => .row <$> Lookup.detail service.resource id
  | .stages id => .rows <$> Lookup.runChildren .runStages id
  | .decisions id => .rows <$> Lookup.runChildren .runDecisions id

end Service

end PagedListing
