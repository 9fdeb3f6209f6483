import PagedListing.Proofs.Session.Run

set_option autoImplicit false

/-!
# Failures that work can end in

Work in a session fails with a failure of its own or with one that the script holds. A property of
failures that both have is kept by every step, and so by whatever is put together from such steps.
-/

namespace PagedListing.Session

variable {α β : Type} {P : Failure → Prop}

def ScriptFails (P : Failure → Prop) (script : List Reply) : Prop :=
  ∀ failure, Reply.failure failure ∈ script → P failure

/-- Work whose failures have a property under every script whose failures have it. -/
def FailsOnly (P : Failure → Prop) (work : SessionM α) : Prop :=
  ∀ session : Session, ScriptFails P session.script →
    (∀ failure, (steps work session).1 = .error failure → P failure) ∧
      ScriptFails P (steps work session).2.script

theorem ScriptFails.tail {script : List Reply} (fails : ScriptFails P script) :
    ScriptFails P script.tail :=
  fun failure member => fails failure (List.mem_of_mem_tail member)

theorem ScriptFails.head {script : List Reply} (fails : ScriptFails P script) {failure : Failure}
    (raised : Reply.outcome script.head? = .error failure) : P failure :=
  fails failure (List.mem_of_head? (Reply.outcome_eq_error_iff.mp raised))

theorem failsOnly_lift {result : Except Failure α}
    (own : ∀ failure, result = .error failure → P failure) :
    FailsOnly P (liftM result : SessionM α) := by
  intro session fails
  rw [steps_lift]
  exact ⟨own, fails⟩

theorem failsOnly_pure (value : α) : FailsOnly P (pure value : SessionM α) := by
  intro session fails
  refine ⟨fun failure failed => ?_, fails⟩
  cases failed

theorem failsOnly_throw {failure : Failure} (own : P failure) :
    FailsOnly P (throw failure : SessionM α) := by
  intro session fails
  refine ⟨fun other failed => ?_, fails⟩
  cases failed
  exact own

theorem FailsOnly.bind {first : SessionM α} {later : α → SessionM β} (before : FailsOnly P first)
    (after : ∀ value, FailsOnly P (later value)) : FailsOnly P (first >>= later) := by
  intro session fails
  obtain ⟨own, rest⟩ := before session fails
  rw [steps_bind]
  rcases reached : steps first session with ⟨outcome, middle⟩
  rw [reached] at own rest
  cases outcome with
  | error failure =>
      refine ⟨fun other failed => ?_, rest⟩
      cases failed
      exact own failure rfl
  | ok value => exact after value middle rest

theorem FailsOnly.map {work : SessionM α} (fails : FailsOnly P work) (change : α → β) :
    FailsOnly P (change <$> work) := by
  rw [← bind_pure_comp]
  exact fails.bind fun value => failsOnly_pure (change value)

theorem failsOnly_mapM {items : List α} {work : α → SessionM β}
    (each : ∀ item, FailsOnly P (work item)) : FailsOnly P (items.mapM work) := by
  induction items with
  | nil => exact failsOnly_pure []
  | cons item rest ih =>
      rw [List.mapM_cons]
      exact (each item).bind fun first => ih.bind fun later => failsOnly_pure (first :: later)

theorem failsOnly_execute (query : Query) : FailsOnly P (execute query) := by
  intro session fails
  rw [steps_execute]
  exact ⟨fun _ raised => fails.head raised, fails.tail⟩

theorem failsOnly_fetchScalar (query : Query) : FailsOnly P (fetchScalar query) :=
  (failsOnly_execute query).bind fun _ => failsOnly_pure _

theorem failsOnly_scan {projection : Projection} (narrow : P .rowTooShort) (wide : P .rowTooLong)
    (row : List Value) : FailsOnly P (liftM (projection.scan row) : SessionM Record) := by
  apply failsOnly_lift
  intro failure failed
  unfold Projection.scan at failed
  split at failed
  · cases failed
    exact narrow
  · split at failed
    · cases failed
      exact wide
    · cases failed

theorem failsOnly_fetchMany (query : Query) (projection : Projection) (narrow : P .rowTooShort)
    (wide : P .rowTooLong) : FailsOnly P (fetchMany query projection) :=
  (failsOnly_execute query).bind fun _ => failsOnly_mapM (failsOnly_scan narrow wide)

theorem failsOnly_fetchOne (query : Query) (projection : Projection) (narrow : P .rowTooShort)
    (wide : P .rowTooLong) (none : P (.reported (.notFound .none) .none)) :
    FailsOnly P (fetchOne query projection) := by
  refine (failsOnly_execute query).bind fun rows => ?_
  cases rows with
  | nil => exact failsOnly_throw none
  | cons row rest => exact failsOnly_scan narrow wide row

theorem FailsOnly.explained {work : SessionM α} {explain : Failure → Failure}
    (fails : FailsOnly P work) (kept : ∀ failure, P failure → P (explain failure)) :
    FailsOnly P (tryCatch work fun failure => throw (explain failure)) := by
  intro session scripted
  obtain ⟨own, rest⟩ := fails session scripted
  rw [steps_tryCatch]
  refine ⟨fun failure failed => ?_, rest⟩
  cases reached : (steps work session).1 with
  | ok value =>
      rw [reached] at failed
      cases failed
  | error cause =>
      rw [reached] at failed
      cases failed
      exact kept cause (own cause reached)

end PagedListing.Session
