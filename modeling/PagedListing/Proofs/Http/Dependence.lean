import PagedListing.Http.Exchange
import PagedListing.Proofs.Params.Agreement

set_option autoImplicit false

/-!
# What a listing over HTTP depends on

A listing reads the last text under each of the names that it recognises and nothing else of its
query: two queries that say the same under these names are answered alike, statement by statement.
-/

namespace PagedListing

open PagedListing.Pagination PagedListing.Params

def Resource.filterNames : Resource → List String
  | .agents | .providers => ["name"]
  | .documents => ["name", "content_type"]
  | .images => ["document_id", "format", "page_number"]
  | .profiles => ["workflow_name"]
  | .runs => ["workflow_name", "status"]

def Pagination.Request.names : List String := ["page", "page_size", "search", "sort"]

/-- The names that a listing of a resource recognises. -/
def Resource.queryNames (resource : Resource) : List String :=
  Request.names ++ resource.filterNames

variable {names : List String} {first second : Params}

/-- A request for a page is read from what is said under its four names. -/
theorem Pagination.Request.ofParams_congr (agree : AgreeOn names first second)
    (known : Request.names ⊆ names) (config : Config) :
    ofParams first config = ofParams second config := by
  have said (name : String) (member : name ∈ Request.names) :
      first.text? name = second.text? name := agreeOn_iff.mp agree name (known member)
  have unreadable : Number.readInt? "" = none := by decide +kernel
  have blind (fallback : Int) : Number.intOr (some "") fallback = fallback := by
    rw [Number.intOr, unreadable]
    rfl
  have page := read_congr (Number.intOr · 1) (blind 1) (said "page" (by decide))
  have size := read_congr (Number.intOr · config.defaultSize) (blind config.defaultSize)
    (said "page_size" (by decide))
  have search := read_congr presentSearch rfl (said "search" (by decide))
  have sort := read_congr sortOf (by decide +kernel) (said "sort" (by decide))
  unfold ofParams
  rw [page, size, search, sort]

/-- The criteria of a listing are read from what is said under their names. -/
theorem Filter.ofParams_congr {resource : Resource} (agree : AgreeOn names first second)
    (known : resource.filterNames ⊆ names) :
    ofParams resource first = ofParams resource second := by
  have said (name : String) (member : name ∈ resource.filterNames) :
      first.text? name = second.text? name := agreeOn_iff.mp agree name (known member)
  cases resource with
  | agents | providers => simp only [ofParams, said "name" (by decide)]
  | documents =>
      simp only [ofParams, said "name" (by decide), said "content_type" (by decide)]
  | images =>
      have number := read_congr Number.optionalInt rfl
        (said "page_number" (by decide))
      simp only [ofParams, number, said "document_id" (by decide), said "format" (by decide)]
  | profiles => simp only [ofParams, said "workflow_name" (by decide)]
  | runs => simp only [ofParams, said "workflow_name" (by decide), said "status" (by decide)]

namespace Http

theorem list_congr {resource : Resource} (agree : AgreeOn resource.queryNames first second)
    (environment : Environment) :
    list resource environment first = list resource environment second := by
  have request (config : Config) : Request.ofParams first config = .ofParams second config :=
    Request.ofParams_congr agree (List.subset_append_left _ _) config
  have filter : Filter.ofParams resource first = .ofParams resource second :=
    Filter.ofParams_congr agree (List.subset_append_right _ _)
  unfold list
  simp only [request, filter]

theorem answer_eq_of_agreeOn {resource : Resource} {request : Request} {other : Params}
    (listed : Route.ofPath? request.path = some (.list resource))
    (agree : AgreeOn resource.queryNames request.query other) (environment : Environment)
    (script : List Reply) :
    answer environment script { request with query := other } =
      answer environment script request := by
  simp only [answer, listed, follow, list_congr agree environment]

/-- What a listing answers and executes depends on its query only through the last texts under
the names that it recognises. So nothing changes when pairs under different names change places,
when a name is also given before its last pair, or when a pair is added whose name is not
recognised or whose text is empty. -/
theorem answer_listing_congr {resource : Resource} {request : Request}
    (listed : Route.ofPath? request.path = some (.list resource)) (environment : Environment)
    (script : List Reply) (other : Params) :
    (AgreeOn resource.queryNames request.query other →
      answer environment script { request with query := other } =
        answer environment script request) ∧
    (Relation.EqvGen (Resent resource.queryNames) request.query other →
      answer environment script { request with query := other } =
        answer environment script request) := by
  constructor
  · intro agree
    exact answer_eq_of_agreeOn listed agree environment script
  · intro resent
    exact answer_eq_of_agreeOn listed (agreeOn_of_resent resent) environment script

def wordyImages : Request where
  origin := "http://localhost"
  path := "/api/images"
  query := [("page", "2"), ("format", " JPEG"), ("colour", "red"), ("document_id", "a"),
    ("page", "3"), ("document_id", "")]

def terseQuery : Params := [("format", " JPEG"), ("page", "3")]

def colourlessQuery : Params :=
  [("page", "2"), ("format", " JPEG"), ("document_id", "a"), ("page", "3"), ("document_id", "")]

theorem answer_listing_congr_wordyImages :
    answer [] [] { wordyImages with query := terseQuery } = answer [] [] wordyImages ∧
      answer [] [] { wordyImages with query := colourlessQuery } = answer [] [] wordyImages ∧
      (answer [] [] wordyImages).1.status = 200 ∧
      (answer [] [] wordyImages).2.head?.map Statement.sql =
        some "SELECT COUNT(*) FROM public.images i WHERE i.format = :p1" := by
  have listed : Route.ofPath? wordyImages.path = some (.list .images) := by decide +kernel
  have agree : AgreeOn Resource.images.queryNames wordyImages.query terseQuery := by
    decide +kernel
  have resent : Resent Resource.images.queryNames wordyImages.query colourlessQuery :=
    @Resent.unrecognised _ [("page", "2"), ("format", " JPEG")]
      [("document_id", "a"), ("page", "3"), ("document_id", "")] "colour" "red" (by decide)
  have terse := (answer_listing_congr listed [] [] terseQuery).1 agree
  have colourless := (answer_listing_congr listed [] [] colourlessQuery).2 (.rel _ _ resent)
  exact ⟨terse, colourless, by decide +kernel, by decide +kernel⟩

end Http

end PagedListing
