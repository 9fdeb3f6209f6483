import PagedListing.Http.Content
import PagedListing.Http.PercentEncoding
import PagedListing.Http.Route
import PagedListing.Listing
import PagedListing.Lookup

set_option autoImplicit false

/-!
# Exchanges

A request over HTTP and its response. Failures that the caller can mend or expect are
told with a status of their own; all others are told alike, without any detail.
-/

namespace PagedListing.Http

open PagedListing.Pagination

/-- A request, decoded. The origin is the address of the host it was sent to. -/
structure Request where
  method : String := "GET"
  origin : String
  path : String
  query : Params := []
deriving Repr

inductive Body where
  | json (value : Value)
  | text (text : String)
deriving Repr

structure Response where
  status : Nat
  body : Body
  location : Option String := none
deriving Repr

namespace Response

def detail (status : Nat) (report : String) : Response :=
  { status, body := .json (.record [("detail", .text report)]) }

def unknownPath : Response := detail 404 "Not Found"

def wrongMethod : Response := detail 405 "Method Not Allowed"

def internalError : Response := { status := 500, body := .text "Internal Server Error" }

/-- The response that sends a request on to another path with the same query. -/
def redirect (request : Request) (path : String) : Response where
  status := 307
  body := .text ""
  location := some <| encodeAddress <|
    request.origin ++ encodePath path ++ encodeQuery request.query

def ok : Option Value → Response
  | some value => { status := 200, body := .json value }
  | none => internalError

def ofFailure (failure : Failure) : Response :=
  if failure.isNotFound then detail 404 failure.message
  else if failure.kind = .duplicate then detail 409 failure.message
  else if failure.isInvalidInput then detail 400 failure.message
  else internalError

def ofOutcome : Except Failure (Option Value) → Response
  | .ok content => ok content
  | .error failure => ofFailure failure

end Response

def list (resource : Resource) (environment : Environment) (query : Params) :
    SessionM (Option Value) := do
  let config ← (Config.ofSettings { } environment).mapError Failure.unusablePageSizes
  let request := Pagination.Request.ofParams query config
  pageContent? <$> Listing.list resource config request (some (Filter.ofParams resource query))

def follow (environment : Environment) (query : Params) : Route → SessionM (Option Value)
  | .health => return some (.record [("status", .text "ok")])
  | .list resource => list resource environment query
  | .detail resource id => (plainContent? ∘ .record) <$> Lookup.detail resource id
  | .children table id => (plainContent? ∘ rowsValue) <$> Lookup.runChildren table id

def answer (environment : Environment) (script : List Reply) (request : Request) :
    Response × List Statement :=
  match Route.ofPath? request.path with
  | some route =>
      if request.method = "GET" then
        let (outcome, executed) := Session.run script (follow environment request.query route)
        (Response.ofOutcome outcome, executed)
      else (Response.wrongMethod, [])
  | none =>
      match Route.redirection? request.path with
      | some path => (Response.redirect request path, [])
      | none => (Response.unknownPath, [])

end PagedListing.Http
