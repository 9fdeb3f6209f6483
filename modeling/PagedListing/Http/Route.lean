import PagedListing.Resource

set_option autoImplicit false

/-!
# Routes

The paths that are answered. A path that ends in a fixed word may have one line end
behind it; an identifier takes in whatever stands in its place.
-/

namespace PagedListing.Http

inductive Route where
  | health
  | list (resource : Resource)
  | detail (resource : Resource) (id : String)
  | children (table : ChildTable) (id : String)
deriving DecidableEq, Repr

namespace Route

/-- The listing at the top level of a given name. Runs are listed among workflows. -/
def topLevel? (name : String) : Option Resource :=
  [Resource.agents, .providers, .documents, .images, .profiles].find? (·.name = name)

def runTable? (name : String) : Option ChildTable :=
  if name = "stages" then some .runStages
  else if name = "decisions" then some .runDecisions
  else none

/-- A last segment without the line end behind it. -/
def dropLineEnd (segment : String) : String :=
  match segment.toList.reverse with
  | '\n' :: rest => String.ofList rest.reverse
  | _ => segment

def withId (id : String) (route : String → Route) : Option Route :=
  if id = "" then none else some (route id)

def ofSegments? : List String → Option Route
  | ["", last] => if dropLineEnd last = "health" then some .health else none
  | ["", "api", last] => (topLevel? (dropLineEnd last)).map .list
  | ["", "api", "workflows", last] =>
      if dropLineEnd last = "runs" then some (.list .runs) else none
  | ["", "api", name, id] => (topLevel? name).bind fun resource => withId id (.detail resource)
  | ["", "api", "workflows", "runs", id] => withId id (.detail .runs)
  | ["", "api", "workflows", "runs", id, last] =>
      (runTable? (dropLineEnd last)).bind fun table => withId id (.children table)
  | _ => none

def ofPath? (path : String) : Option Route :=
  ofSegments? ((path.toList.splitOn '/').map String.ofList)

def dropSlashes? (path : String) : Option String :=
  match path.toList.reverse with
  | '/' :: rest => some (String.ofList (rest.dropWhile (· = '/')).reverse)
  | _ => none

/-- The path that a request is sent on to: without slashes at its end it has a route. -/
def redirection? (path : String) : Option String :=
  (dropSlashes? path).filter fun shorter => (ofPath? shorter).isSome

end Route

end PagedListing.Http
