import PagedListing.Session

set_option autoImplicit false

/-!
# Work under a session, step by step

What each piece of work leads to from a given session. Work that only computes leaves the
session alone; executing a query takes one reply and adds one statement.
-/

namespace PagedListing

theorem ok_of_bind {ε α β : Type} {first : Except ε α} {later : α → Except ε β} {result : β}
    (ok : (first >>= later) = .ok result) :
    ∃ value, first = .ok value ∧ later value = .ok result := by
  cases first with
  | error failure => cases ok
  | ok value => exact ⟨value, rfl, ok⟩

theorem ok_of_map {ε α β : Type} {change : α → β} {first : Except ε α} {result : β}
    (ok : first.map change = .ok result) : ∃ value, first = .ok value ∧ change value = result := by
  cases first with
  | error failure => cases ok
  | ok value => exact ⟨value, rfl, Except.ok.inj ok⟩

/-- What a reply gives back; a script that has run out gives no rows. -/
def Reply.outcome : Option Reply → Except Failure (List (List Value))
  | some (.rows table) => .ok table
  | some (.failure cause) => .error cause
  | none => .ok []

theorem Reply.outcome_eq_error_iff {reply : Option Reply} {cause : Failure} :
    Reply.outcome reply = .error cause ↔ reply = some (.failure cause) := by
  cases reply with
  | none => simp [outcome]
  | some reply => cases reply <;> simp [outcome]

def Projection.misfit (projection : Projection) (row : List Value) : Failure :=
  if row.length < projection.size then .rowTooShort else .rowTooLong

theorem Projection.scan_of_ne {projection : Projection} {row : List Value}
    (odd : row.length ≠ projection.size) :
    projection.scan row = .error (projection.misfit row) := by
  unfold Projection.scan Projection.misfit
  by_cases short : row.length < projection.size
  · rw [if_pos short, if_pos short]
  · rw [if_neg short, if_neg short, if_pos (by omega)]

/-- Rows of the width of a projection are read in their order. -/
theorem Projection.mapM_scan_of_wide {projection : Projection} {rows : List (List Value)}
    (wide : ∀ row ∈ rows, row.length = projection.size) :
    rows.mapM projection.scan = .ok (rows.map projection.names.zip) := by
  induction rows with
  | nil => rfl
  | cons row rest ih =>
      have first := Projection.scan_eq_ok_iff.mpr ⟨wide row List.mem_cons_self, rfl⟩
      have later := ih fun other member => wide other (List.mem_cons_of_mem row member)
      rw [List.mapM_cons, first, later]
      rfl

namespace Session

variable {α β : Type}

def steps (work : SessionM α) (session : Session) : Except Failure α × Session :=
  StateT.run (ExceptT.run work) session

def next (session : Session) (query : Query) : Session where
  script := session.script.tail
  executed := session.executed ++ [query.bind]

theorem run_eq_steps (script : List Reply) (work : SessionM α) :
    run script work =
      ((steps work { script }).1, (steps work { script }).2.executed) := rfl

@[simp] theorem steps_lift (result : Except Failure α) (session : Session) :
    steps (liftM result : SessionM α) session = (result, session) := by
  cases result <;> rfl

theorem steps_bind (first : SessionM α) (later : α → SessionM β) (session : Session) :
    steps (first >>= later) session =
      match steps first session with
      | (.ok value, after) => steps (later value) after
      | (.error failure, after) => (.error failure, after) := by
  simp only [steps, ExceptT.run_bind, StateT.run_bind]
  rcases ran : StateT.run (ExceptT.run first) session with ⟨outcome, after⟩
  cases outcome <;> rfl

theorem steps_map (change : α → β) (work : SessionM α) (session : Session) :
    steps (change <$> work) session =
      ((steps work session).1.map change, (steps work session).2) := by
  rw [← bind_pure_comp, steps_bind]
  rcases steps work session with ⟨outcome, after⟩
  cases outcome <;> rfl

theorem steps_execute (query : Query) (session : Session) :
    steps (execute query) session =
      (Reply.outcome session.script.head?, session.next query) := by
  obtain ⟨script, executed⟩ := session
  cases script with
  | nil => rfl
  | cons reply rest => cases reply <;> rfl

theorem steps_mapM (read : α → Except Failure β) (items : List α) (session : Session) :
    steps (items.mapM fun item => (liftM (read item) : SessionM β)) session =
      (items.mapM read, session) := by
  induction items with
  | nil => rfl
  | cons item rest ih =>
      simp only [List.mapM_cons, steps_bind, steps_lift]
      cases read item with
      | error failure => rfl
      | ok value =>
          simp only [ih]
          cases rest.mapM read <;> rfl

theorem steps_fetchScalar (query : Query) (session : Session) :
    steps (fetchScalar query) session =
      ((Reply.outcome session.script.head?).map fun rows =>
        (rows.head?.bind List.head?).getD .null, session.next query) := by
  rw [fetchScalar, steps_bind, steps_execute]
  cases Reply.outcome session.script.head? <;> rfl

theorem steps_fetchMany (query : Query) (projection : Projection) (session : Session) :
    steps (fetchMany query projection) session =
      ((Reply.outcome session.script.head?).bind fun rows => rows.mapM projection.scan,
        session.next query) := by
  rw [fetchMany, steps_bind, steps_execute]
  cases Reply.outcome session.script.head? with
  | error failure => rfl
  | ok rows => exact steps_mapM projection.scan rows (session.next query)

/-- The row that one reply is read as. A reply without rows is one that finds nothing. -/
def firstRow (projection : Projection) (rows : List (List Value)) : Except Failure Record :=
  match rows.head? with
  | some row => projection.scan row
  | none => .error (.reported (.notFound none) none)

theorem steps_fetchOne (query : Query) (projection : Projection) (session : Session) :
    steps (fetchOne query projection) session =
      ((Reply.outcome session.script.head?).bind (firstRow projection), session.next query) := by
  rw [fetchOne, steps_bind, steps_execute]
  cases Reply.outcome session.script.head? with
  | error failure => rfl
  | ok rows =>
      cases rows with
      | nil => rfl
      | cons row rest => exact steps_lift (projection.scan row) (session.next query)

/-- Work that replaces its failures by others executes nothing more. -/
theorem steps_tryCatch (work : SessionM α) (explain : Failure → Failure) (session : Session) :
    steps (tryCatch work fun failure => throw (explain failure)) session =
      ((steps work session).1.mapError explain, (steps work session).2) := by
  rcases ran : steps work session with ⟨outcome, after⟩
  have reached : StateT.run work session = (outcome, after) := ran
  simp only [steps, tryCatch, tryCatchThe, MonadExceptOf.tryCatch, ExceptT.tryCatch,
    ExceptT.run_mk, StateT.run_bind]
  rw [reached]
  cases outcome <;> rfl

end Session

end PagedListing
