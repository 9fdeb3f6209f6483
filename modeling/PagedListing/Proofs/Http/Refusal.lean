import PagedListing.Proofs.Http.Status
import PagedListing.Proofs.Lookup.Course
import PagedListing.Proofs.Session.Failures
import PagedListing.Proofs.SortField.Resolution

set_option autoImplicit false

/-!
# Refused requests

A request is refused for what the caller got wrong: an identifier that is malformed, or a name in
an ordering that stands for no field. It is refused before anything is executed, and no failure
further on is told as a refusal unless the session itself raises one.
-/

namespace PagedListing

open PagedListing.Pagination

/-- A failure that is not told as a fault of the caller. -/
def Failure.SparesCaller (failure : Failure) : Prop := failure.isInvalidInput = false

namespace Http

inductive Refusal (query : Params) : Route → Failure → Prop where
  | unknownFields {resource : Resource} {sort : SortField} :
      sort ∈ Request.sortOf (query.get? "sort") → sort.IsUnknown resource.projection →
      Refusal query (.list resource) (.unknownFields
        ⟨SortField.unknownIn resource.projection (Request.sortOf (query.get? "sort")),
          resource.projection.names⟩)
  | malformedId {resource : Resource} {id : String} :
      Uuid.parse? id = none → Refusal query (.detail resource id) (.malformedId id)
  | malformedOwner {table : ChildTable} {id : String} :
      Uuid.parse? id = none → Refusal query (.children table id) (.malformedId id)

variable {environment : Environment} {script : List Reply} {query : Params} {route : Route}

/-- A refused request is over before anything is executed. -/
theorem Refusal.run_follow {config : Config} {failure : Failure}
    (refusal : Refusal query route failure)
    (configured : Config.ofSettings { } environment = .ok config) :
    Session.run script (follow environment query route) = (.error failure, []) := by
  cases refusal with
  | @unknownFields resource sort asked unknown =>
      have missing : SortField.registered? resource.projection.names sort.field = none :=
        SortField.registered?_eq_none_iff.mpr unknown
      have unresolved := SortField.resolve_of_unknown ⟨sort, asked, missing⟩
      rw [SortField.unknownNames_eq] at unresolved
      rw [follow, run_list configured, Listing.run_list_of_unresolved unresolved]
      rfl
  | malformedId malformed =>
      rw [follow, Session.run_eq_steps, Session.steps_map, Lookup.detail, Session.steps_bind,
        Lookup.steps_find_of_malformed malformed]
      rfl
  | malformedOwner malformed =>
      rw [follow, Session.run_eq_steps, Session.steps_map, Lookup.runChildren, Session.steps_bind,
        Lookup.steps_find_of_malformed malformed]
      rfl

theorem Refusal.isInvalidInput {failure : Failure} (refusal : Refusal query route failure) :
    failure.isInvalidInput = true := by
  cases refusal <;> rfl

end Http

/-! ## Failures that spare the caller -/

theorem Pagination.Result.sparesCaller_of_pageCount {total : Value} {size : Int}
    {failure : Failure} (failed : pageCount total size = .error failure) :
    failure.SparesCaller := by
  have counted {pages : Option Int}
      (failed : pages.elim (Except.error Failure.quotientTooLarge) .ok = .error failure) :
      failure.SparesCaller := by
    cases pages with
    | none =>
        cases failed
        rfl
    | some pages => cases failed
  unfold pageCount at failed
  split at failed
  · cases failed
  · split at failed
    · exact counted failed
    · exact counted failed
    · unfold decimalPages at failed
      split at failed
      · cases failed
        rfl
      · split at failed
        · cases failed
          rfl
        · cases failed
    · cases failed
      rfl

theorem Pagination.Result.sparesCaller_of_build {data : List Value} {total : Value}
    {page size : Int} {failure : Failure} (failed : build data total page size = .error failure) :
    failure.SparesCaller := by
  unfold build at failed
  cases counted : pageCount total size with
  | error cause =>
      rw [counted] at failed
      cases failed
      exact sparesCaller_of_pageCount counted
  | ok pages =>
      rw [counted] at failed
      cases read : Validation.integerAt [.field "total"] total with
      | error issues =>
          rw [read] at failed
          cases failed
          rfl
      | ok total =>
          rw [read] at failed
          cases failed

open Session

theorem Listing.failsOnly_fetch (resource : Resource) (request : Request)
    (filter : Option Filter) : FailsOnly Failure.SparesCaller (fetch resource request filter) := by
  refine (failsOnly_fetchScalar _).bind fun total => ?_
  split
  · exact failsOnly_throw rfl
  · have fetched (page : Query) :=
      failsOnly_fetchMany (P := Failure.SparesCaller) page resource.projection rfl rfl
    refine (fetched _).bind fun rows => failsOnly_lift fun failure failed => ?_
    exact Pagination.Result.sparesCaller_of_build failed

namespace Lookup

theorem sparesCaller_explain {resource : Resource} {failure : Failure}
    (spares : failure.SparesCaller) : (explain resource failure).SparesCaller := by
  unfold explain
  split
  · rfl
  · exact spares

theorem failsOnly_find {id : String} {uuid : Uuid} (parsed : Uuid.parse? id = some uuid)
    (resource : Resource) : FailsOnly Failure.SparesCaller (find resource id) := by
  rw [find, parsed]
  have fetched := failsOnly_fetchOne (P := Failure.SparesCaller) (query resource uuid)
    resource.projection rfl rfl rfl
  exact fetched.explained fun _ => sparesCaller_explain

theorem failsOnly_children (table : ChildTable) (row : Record) :
    FailsOnly Failure.SparesCaller (children table row) := by
  unfold children
  split
  · exact failsOnly_throw rfl
  · exact failsOnly_fetchMany _ table.projection rfl rfl

theorem failsOnly_detail {id : String} {uuid : Uuid} (parsed : Uuid.parse? id = some uuid)
    (resource : Resource) : FailsOnly Failure.SparesCaller (detail resource id) := by
  refine (failsOnly_find parsed resource).bind fun row => ?_
  cases resource with
  | profiles => exact (failsOnly_children _ row).bind fun stages => failsOnly_pure _
  | _ => exact failsOnly_pure row

theorem failsOnly_runChildren {id : String} {uuid : Uuid} (parsed : Uuid.parse? id = some uuid)
    (table : ChildTable) : FailsOnly Failure.SparesCaller (runChildren table id) :=
  (failsOnly_find parsed .runs).bind fun row => failsOnly_children table row

end Lookup

namespace Http

variable {environment : Environment} {script : List Reply} {query : Params} {route : Route}

theorem failsOnly_list {resource : Resource}
    (known : ∀ sort ∈ Request.sortOf (query.get? "sort"), ¬sort.IsUnknown resource.projection) :
    FailsOnly Failure.SparesCaller (list resource environment query) := by
  have settled : FailsOnly Failure.SparesCaller
      (liftM ((Config.ofSettings { } environment).mapError Failure.unusablePageSizes) :
        SessionM Config) := by
    apply failsOnly_lift
    intro failure failed
    cases settled : Config.ofSettings { } environment with
    | error problem =>
        rw [settled] at failed
        cases failed
        rfl
    | ok config =>
        rw [settled] at failed
        cases failed
  refine settled.bind fun config => FailsOnly.map ?_ pageContent?
  have registered : ∀ sort ∈ Request.sortOf (query.get? "sort"),
      SortField.registered? resource.projection.names sort.field ≠ none :=
    fun sort member missing => known sort member (SortField.registered?_eq_none_iff.mp missing)
  have resolved := SortField.resolve_of_known registered
  have asked : (Request.ofParams query config).sort = Request.sortOf (query.get? "sort") := rfl
  rw [Listing.list, Listing.prepare, asked, resolved]
  exact (failsOnly_pure _).bind fun prepared => Listing.failsOnly_fetch resource prepared _

/-- A request for which there is no reason to refuse it fails in no way that blames the caller. -/
theorem failsOnly_follow (accepted : ∀ failure, ¬Refusal query route failure) :
    FailsOnly Failure.SparesCaller (follow environment query route) := by
  have parses {id : String} (unparsed : Uuid.parse? id ≠ none) :
      ∃ uuid, Uuid.parse? id = some uuid := Option.ne_none_iff_exists'.mp unparsed
  cases route with
  | health => exact failsOnly_pure _
  | list resource =>
      apply failsOnly_list
      intro sort member unknown
      exact accepted _ (.unknownFields member unknown)
  | detail resource id =>
      obtain ⟨uuid, parsed⟩ := parses fun malformed => accepted _ (.malformedId malformed)
      exact (Lookup.failsOnly_detail parsed resource).map _
  | children table id =>
      obtain ⟨uuid, parsed⟩ := parses fun malformed => accepted _ (.malformedOwner malformed)
      exact (Lookup.failsOnly_runChildren parsed table).map _

theorem Response.ofFailure_of_isInvalidInput {failure : Failure}
    (blames : failure.isInvalidInput = true) : ofFailure failure = detail 400 failure.message := by
  unfold Failure.isInvalidInput at blames
  unfold ofFailure Failure.isNotFound Failure.isInvalidInput
  generalize failure.kind = kind at blames ⊢
  cases kind with
  | invalidInput | unknownSort => rfl
  | _ => cases blames

theorem Response.status_ofFailure_ne {failure : Failure} (spares : failure.SparesCaller) :
    (ofFailure failure).status ≠ 400 := by
  unfold ofFailure
  rw [spares]
  split
  · exact (by decide : (404 : Nat) ≠ 400)
  · split
    · exact (by decide : (409 : Nat) ≠ 400)
    · exact (by decide : (500 : Nat) ≠ 400)

theorem Response.status_ofOutcome_ne {outcome : Except Failure (Option Value)}
    (spares : ∀ failure, outcome = .error failure → failure.SparesCaller) :
    (ofOutcome outcome).status ≠ 400 := by
  cases outcome with
  | error failure => exact status_ofFailure_ne (spares failure rfl)
  | ok content =>
      cases content with
      | none => exact (by decide : (500 : Nat) ≠ 400)
      | some value => exact (by decide : (200 : Nat) ≠ 400)

theorem answer_of_route {request : Request} (routed : Route.ofPath? request.path = some route)
    (get : request.method = "GET") :
    answer environment script request =
      (Response.ofOutcome (Session.run script (follow environment request.query route)).1,
        (Session.run script (follow environment request.query route)).2) := by
  simp only [answer, routed, get, if_pos]

/-- Where page sizes settle and the session blames no caller, a request is answered with a
refusal exactly if its route has a reason to refuse it. It then tells this reason and has executed
nothing. -/
theorem answer_refused_iff {request : Request} {config : Config}
    (routed : Route.ofPath? request.path = some route) (get : request.method = "GET")
    (configured : Config.ofSettings { } environment = .ok config)
    (blameless : ∀ failure, Reply.failure failure ∈ script → failure.isInvalidInput = false) :
    ((answer environment script request).1.status = 400 ↔
      ∃ failure, Refusal request.query route failure) ∧
    ∀ failure, Refusal request.query route failure →
      answer environment script request = (Response.detail 400 failure.message, []) := by
  rw [answer_of_route routed get]
  have refused (failure : Failure) (refusal : Refusal request.query route failure) :
      (Response.ofOutcome (Session.run script (follow environment request.query route)).1,
        (Session.run script (follow environment request.query route)).2) =
        (Response.detail 400 failure.message, []) := by
    rw [refusal.run_follow configured, Response.ofOutcome,
      Response.ofFailure_of_isInvalidInput refusal.isInvalidInput]
  refine ⟨⟨fun status => ?_, ?_⟩, refused⟩
  · by_contra none
    have accepted (failure : Failure) : ¬Refusal request.query route failure :=
      fun refusal => none ⟨failure, refusal⟩
    obtain ⟨spares, -⟩ := failsOnly_follow accepted ⟨script, []⟩ blameless
    exact Response.status_ofOutcome_ne spares status
  · rintro ⟨failure, refusal⟩
    rw [(Prod.mk.inj (refused failure refusal)).1]
    rfl

def strayStages : Request where
  origin := "http://localhost"
  path := "/api/workflows/runs/17/stages"

def straySort : Request where
  origin := "http://localhost"
  path := "/api/agents"
  query := [("sort", "-name,Size,created_at,Age")]

def soundSort : Request where
  origin := "http://localhost"
  path := "/api/agents"
  query := [("sort", "-name,createdAt")]

def brokenScript : List Reply := [.failure (.reported .invalidValue (some "broken"))]

theorem answer_refused_iff_strayRequests :
    answer [] brokenScript strayStages = (Response.detail 400 "Invalid UUID '17'.", []) ∧
      answer [] brokenScript straySort =
        (Response.detail 400 ("Unknown sort field(s): Size, Age. " ++
          "Allowed: ID, Name, Config, CreatedAt, UpdatedAt."), []) ∧
      (answer [] brokenScript soundSort).1.status ≠ 400 := by
  have configured : Config.ofSettings { } [] = .ok ⟨20, 100⟩ := rfl
  have blameless : ∀ failure, Reply.failure failure ∈ brokenScript →
      failure.isInvalidInput = false := by
    intro failure member
    cases List.mem_singleton.mp member
    rfl
  refine ⟨?_, ?_, ?_⟩
  · have routed : Route.ofPath? strayStages.path = some (.children .runStages "17") := by
      decide +kernel
    have malformed : Uuid.parse? "17" = none := by decide +kernel
    have told : (Failure.malformedId "17").message = "Invalid UUID '17'." := by decide +kernel
    rw [(answer_refused_iff routed rfl configured blameless).2 _ (.malformedOwner malformed), told]
  · have routed : Route.ofPath? straySort.path = some (.list .agents) := by decide +kernel
    have asked : Request.sortOf (straySort.query.get? "sort") =
        [⟨"name", true⟩, ⟨"Size", false⟩, ⟨"created_at", false⟩, ⟨"Age", false⟩] := by
      decide +kernel
    have member : (⟨"Size", false⟩ : SortField) ∈
        Request.sortOf (straySort.query.get? "sort") := by decide +kernel
    have unknown : SortField.IsUnknown Resource.agents.projection ⟨"Size", false⟩ := by
      decide +kernel
    rw [(answer_refused_iff routed rfl configured blameless).2 _ (.unknownFields member unknown),
      asked]
    have told : (Failure.unknownFields ⟨SortField.unknownIn Resource.agents.projection
        [⟨"name", true⟩, ⟨"Size", false⟩, ⟨"created_at", false⟩, ⟨"Age", false⟩],
        Resource.agents.projection.names⟩).message = "Unknown sort field(s): Size, Age. " ++
          "Allowed: ID, Name, Config, CreatedAt, UpdatedAt." := by decide +kernel
    rw [told]
  · have routed : Route.ofPath? soundSort.path = some (.list .agents) := by decide +kernel
    have known : ∀ sort ∈ Request.sortOf (soundSort.query.get? "sort"),
        ¬sort.IsUnknown Resource.agents.projection := by decide +kernel
    rw [Ne, (answer_refused_iff routed rfl configured blameless).1]
    rintro ⟨failure, refusal⟩
    cases refusal with
    | unknownFields member unknown => exact known _ member unknown

end Http

end PagedListing
