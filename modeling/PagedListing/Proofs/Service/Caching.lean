import PagedListing.Proofs.Session.Run
import PagedListing.Service

set_option autoImplicit false

/-!
# Services over a run of visits

A service that starts without page sizes takes them from the first visit that needs some and
finds usable ones. From then on it answers as if it had been created with them.
-/

namespace PagedListing.Service

open PagedListing.Pagination

structure Visit where
  environment : Environment
  script : List Reply
  call : Call
deriving Repr

def Visit.config? (visit : Visit) : Option Config :=
  if visit.call.needsConfig then (Config.ofSettings { } visit.environment).toOption else none

def visit (service : Service) (visit : Visit) : Except Failure Answer × List Statement :=
  Session.run visit.script (service.answer visit.environment visit.call)

def next (service : Service) (visit : Visit) : Service :=
  service.after visit.environment visit.call

def behind (service : Service) (visits : List Visit) : Service :=
  visits.foldl next service

def serve (service : Service) : List Visit → List (Except Failure Answer × List Statement)
  | [] => []
  | visit :: later => service.visit visit :: (service.next visit).serve later

variable {service other : Service}

theorem next_eq (service : Service) (visit : Visit) :
    service.next visit =
      { service with pagination := service.pagination.or visit.config? } := by
  obtain ⟨resource, pagination⟩ := service
  cases needed : visit.call.needsConfig with
  | false => cases pagination <;> simp [next, after, Visit.config?, needed]
  | true =>
      cases pagination with
      | none => simp [next, after, Visit.config?, needed, config]
      | some kept => simp [next, after, needed, config, Except.toOption]

theorem behind_eq (service : Service) (visits : List Visit) :
    service.behind visits =
      { service with pagination := service.pagination.or (visits.findSome? Visit.config?) } := by
  induction visits generalizing service with
  | nil => simp [behind]
  | cons visit later ih =>
      have first : service.behind (visit :: later) = (service.next visit).behind later := rfl
      rw [first, ih, next_eq, List.findSome?_cons, Option.or_assoc]
      cases visit.config? <;> rfl

theorem getElem?_serve (service : Service) (earlier later : List Visit) (visit : Visit) :
    (service.serve (earlier ++ visit :: later))[earlier.length]? =
      some ((service.behind earlier).visit visit) := by
  induction earlier generalizing service with
  | nil => rfl
  | cons first rest ih => exact ih (service.next first)

/-- Page sizes matter to the calls that need them only. -/
theorem answer_congr {environment surroundings : Environment} {call : Call}
    (resource : service.resource = other.resource)
    (agree : call.needsConfig = true →
      service.config environment = other.config surroundings) :
    service.answer environment call = other.answer surroundings call := by
  cases call with
  | list request filter =>
      have config := agree rfl
      simp only [answer, usable, config, resource]
  | pagination =>
      have config := agree rfl
      simp only [answer, usable, config]
  | builder request filter => simp only [answer, resource]
  | find id => simp only [answer, resource]
  | stages id => rfl
  | decisions id => rfl

theorem visit_of_unusable {visit : Visit} {problem : Problem}
    (needed : visit.call.needsConfig = true)
    (unusable : service.config visit.environment = .error problem) :
    service.visit visit = (.error (.unusablePageSizes problem), []) := by
  obtain ⟨environment, script, call⟩ := visit
  have refused : service.usable environment = .error (.unusablePageSizes problem) := by
    rw [usable, unusable]
    rfl
  cases call with
  | list request filter =>
      rw [Service.visit, answer, refused]
      rfl
  | pagination =>
      rw [Service.visit, answer, refused]
      rfl
  | builder _ _ | find _ | stages _ | decisions _ => cases needed

/-- A service that has settled its page sizes pays no heed to environments. -/
theorem visit_of_config {resource : Resource} {visit : Visit} {pagination : Option Config}
    {config : Config}
    (settled : Service.config ⟨resource, pagination⟩ visit.environment = .ok config)
    (environment : Environment) :
    Service.visit ⟨resource, pagination⟩ visit =
      Service.visit ⟨resource, some config⟩ { visit with environment } := by
  have same : Service.answer ⟨resource, pagination⟩ visit.environment visit.call =
      Service.answer ⟨resource, some config⟩ environment visit.call :=
    answer_congr rfl fun _ => settled
  rw [Service.visit, same]
  rfl

theorem visit_of_not_needed {resource : Resource} {visit : Visit}
    (independent : visit.call.needsConfig = false) (pagination pagination' : Option Config)
    (environment : Environment) :
    Service.visit ⟨resource, pagination⟩ visit =
      Service.visit ⟨resource, pagination'⟩ { visit with environment } := by
  have same : Service.answer ⟨resource, pagination⟩ visit.environment visit.call =
      Service.answer ⟨resource, pagination'⟩ environment visit.call :=
    answer_congr rfl fun needed => by rw [independent] at needed; cases needed
  rw [Service.visit, same]
  rfl

/-- What comes of a visit to a service that was created without page sizes and has seen some
visits before, and the page sizes that it leaves. -/
structure Course (resource : Resource) (earlier : List Visit) (visit : Visit)
    (outcome : Except Failure Answer × List Statement) (left : Option Config) : Prop where
  /-- Calls that need no page sizes settle none and do not depend on them. -/
  independent : visit.call.needsConfig = false →
    left = (behind ⟨resource, none⟩ earlier).pagination ∧
      ∀ pagination environment,
        outcome = Service.visit ⟨resource, pagination⟩ { visit with environment }
  refused : visit.call.needsConfig = true → (behind ⟨resource, none⟩ earlier).pagination = none →
    ∀ problem, Config.ofSettings { } visit.environment = .error problem →
      outcome = (.error (.unusablePageSizes problem), []) ∧ left = none
  settling : visit.call.needsConfig = true → (behind ⟨resource, none⟩ earlier).pagination = none →
    ∀ config, Config.ofSettings { } visit.environment = .ok config →
      outcome = Service.visit ⟨resource, some config⟩ visit ∧ left = some config
  /-- The first page sizes that were settled are the ones in use from then on. -/
  settled : ∀ config, earlier.findSome? Visit.config? = some config →
    left = some config ∧
      ∀ environment, outcome = Service.visit ⟨resource, some config⟩ { visit with environment }

theorem behind_of_unsettled {resource : Resource} {earlier : List Visit}
    (unsettled : (behind ⟨resource, none⟩ earlier).pagination = none) :
    behind ⟨resource, none⟩ earlier = ⟨resource, none⟩ := by
  rw [behind_eq] at unsettled ⊢
  exact congrArg (Service.mk resource) unsettled

theorem visit_course (resource : Resource) (earlier : List Visit) (visit : Visit) :
    Course resource earlier visit ((behind ⟨resource, none⟩ earlier).visit visit)
      ((behind ⟨resource, none⟩ earlier).next visit).pagination := by
  have state := behind_eq ⟨resource, none⟩ earlier
  rw [Option.none_or] at state
  constructor
  case independent =>
    intro independent
    have nothing : visit.config? = none := by simp [Visit.config?, independent]
    rw [next_eq, nothing, Option.or_none, state]
    exact ⟨rfl, fun pagination => visit_of_not_needed independent _ pagination⟩
  case refused =>
    intro needed unsettled problem unusable
    have nothing : visit.config? = none := by simp [Visit.config?, unusable, Except.toOption]
    have created := behind_of_unsettled unsettled
    rw [next_eq, nothing, Option.or_none, created]
    exact ⟨visit_of_unusable needed unusable, rfl⟩
  case settling =>
    intro needed unsettled config usable
    have found : visit.config? = some config := by
      simp [Visit.config?, needed, usable, Except.toOption]
    have created := behind_of_unsettled unsettled
    have configured : Service.config ⟨resource, none⟩ visit.environment = .ok config := usable
    rw [next_eq, found, created]
    exact ⟨visit_of_config configured visit.environment, rfl⟩
  case settled =>
    intro config first
    rw [next_eq, state, first]
    exact ⟨rfl, visit_of_config rfl⟩

/-- At every point of a run a service has the page sizes that were settled first, and each visit
takes its course. -/
theorem serve_course (resource : Resource) (earlier later : List Visit) (visit : Visit) :
    (behind ⟨resource, none⟩ earlier).pagination = earlier.findSome? Visit.config? ∧
      ∃ outcome,
        (serve ⟨resource, none⟩ (earlier ++ visit :: later))[earlier.length]? = some outcome ∧
        Course resource earlier visit outcome
          (behind ⟨resource, none⟩ (earlier ++ [visit])).pagination := by
  have last : behind ⟨resource, none⟩ (earlier ++ [visit]) =
      (behind ⟨resource, none⟩ earlier).next visit := by
    rw [behind, List.foldl_append]
    rfl
  rw [last]
  refine ⟨?_, _, getElem?_serve _ earlier later visit, visit_course resource earlier visit⟩
  rw [behind_eq, Option.none_or]

def noPages : Environment := [("PAGINATION_MAX_PAGE_SIZE", "0")]

def settlingVisits : List Visit :=
  [⟨noPages, [], .pagination⟩, ⟨[], [], .find "a7"⟩,
    ⟨[("PAGINATION_DEFAULT_PAGE_SIZE", "5")], [], .list { sort := [⟨"Size", false⟩] } none⟩]

theorem serve_course_settlingVisits :
    (serve ⟨.agents, none⟩ (settlingVisits ++ [⟨noPages, [], .pagination⟩]))[3]? =
      some (.ok (.config ⟨5, 100⟩), []) := by
  have first : settlingVisits.findSome? Visit.config? = some ⟨5, 100⟩ := by decide
  obtain ⟨-, outcome, served, course⟩ :=
    serve_course .agents settlingVisits [] ⟨noPages, [], .pagination⟩
  obtain ⟨-, answered⟩ := course.settled ⟨5, 100⟩ first
  rw [answered noPages] at served
  exact served

end PagedListing.Service
