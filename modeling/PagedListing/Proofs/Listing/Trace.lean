import PagedListing.Proofs.Session.Run
import PagedListing.Service

set_option autoImplicit false

/-!
# The course of a listing

A listing settles its ordering, counts, and selects its page. The equations here follow it
through a script of replies, up to the answer of a service.
-/

namespace PagedListing

open PagedListing.Pagination

namespace Listing

def firstCell (rows : List (List Value)) : Value := (rows.head?.bind List.head?).getD .null

def assemble (resource : Resource) (request : Request) (total : Value)
    (rows : List (List Value)) : Except Failure Result := do
  let records ← rows.mapM resource.projection.scan
  Result.build (records.map .record) (countOf total) request.page request.size

def statements (builder : Builder) (page size : Int) (script : List Reply) : List Statement :=
  builder.count.bind ::
    match Reply.outcome script.head? with
    | .error _ => []
    | .ok _ => ((builder.page? page size).map Query.bind).toList

def outcome (resource : Resource) (request : Request) (filter : Option Filter)
    (script : List Reply) : Except Failure Result := do
  let counted ← Reply.outcome script.head?
  match (builder resource request filter).page? request.page request.size with
  | none => throw .numeralTooLong
  | some _ => do
      let rows ← Reply.outcome script.tail.head?
      assemble resource request (firstCell counted) rows

theorem steps_select (query : Query) (resource : Resource) (request : Request) (total : Value)
    (session : Session) :
    Session.steps (do
        let rows ← Session.fetchMany query resource.projection
        Result.build (rows.map .record) (countOf total) request.page request.size) session =
      ((Reply.outcome session.script.head?).bind (assemble resource request total),
        session.next query) := by
  rw [Session.steps_bind, Session.steps_fetchMany]
  cases Reply.outcome session.script.head? with
  | error failure => rfl
  | ok rows =>
      simp only [Except.bind, assemble]
      cases rows.mapM resource.projection.scan with
      | error failure => rfl
      | ok records => exact Session.steps_lift _ _

theorem run_fetch (resource : Resource) (request : Request) (filter : Option Filter)
    (script : List Reply) :
    Session.run script (fetch resource request filter) =
      (outcome resource request filter script,
        statements (builder resource request filter) request.page request.size script) := by
  rw [Session.run_eq_steps, fetch, Session.steps_bind, Session.steps_fetchScalar]
  unfold outcome statements
  cases counted : Reply.outcome script.head? with
  | error failure => rfl
  | ok rows =>
      simp only [Except.map]
      cases (builder resource request filter).page? request.page request.size with
      | none => rfl
      | some query =>
          simp only [steps_select]
          rfl

theorem run_list_of_unresolved {resource : Resource} {request : Request}
    {fields : UnknownFields}
    (unresolved : SortField.resolve resource.projection request.sort = .error fields)
    (config : Config) (filter : Option Filter) (script : List Reply) :
    Session.run script (list resource config request filter) =
      (.error (.unknownFields fields), []) := by
  have prepared : prepare resource config request = .error (.unknownFields fields) := by
    rw [prepare, unresolved]
  rw [Session.run_eq_steps, list, Session.steps_bind, Session.steps_lift, prepared]

theorem run_list_of_resolved {resource : Resource} {request : Request} {sort : List SortField}
    (resolved : SortField.resolve resource.projection request.sort = .ok sort)
    (config : Config) (filter : Option Filter) (script : List Reply) :
    Session.run script (list resource config request filter) =
      Session.run script (fetch resource { request.normalize config with sort } filter) := by
  have prepared : prepare resource config request =
      .ok { request.normalize config with sort } := by rw [prepare, resolved]
  rw [Session.run_eq_steps, Session.run_eq_steps, list, Session.steps_bind, Session.steps_lift,
    prepared]

/-- A page that is answered has the number and the size that it was asked for. -/
theorem page_size_of_outcome {resource : Resource} {request : Request}
    {filter : Option Filter} {script : List Reply} {result : Result}
    (answered : outcome resource request filter script = .ok result) :
    result.page = request.page ∧ result.size = request.size := by
  obtain ⟨rows, -, counted⟩ := ok_of_bind answered
  split at counted
  · cases counted
  · obtain ⟨cells, -, selected⟩ := ok_of_bind counted
    obtain ⟨records, -, built⟩ := ok_of_bind selected
    obtain ⟨pages, -, totalled⟩ := ok_of_bind built
    obtain ⟨total, -, whole⟩ := ok_of_bind totalled
    cases whole
    exact ⟨rfl, rfl⟩

end Listing

theorem Service.run_answer_list {service : Service} {environment : Environment}
    {config : Config} (configured : service.config environment = .ok config)
    (request : Request) (filter : Option Filter) (script : List Reply) :
    Session.run script (service.answer environment (.list request filter)) =
      ((Session.run script (Listing.list service.resource config request filter)).1.map .page,
        (Session.run script (Listing.list service.resource config request filter)).2) := by
  have usable : service.usable environment = .ok config := by
    rw [Service.usable, configured]
    rfl
  simp only [Session.run_eq_steps, answer, Session.steps_bind, Session.steps_lift, usable,
    Session.steps_map]

end PagedListing
