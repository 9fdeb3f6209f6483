import PagedListing.Failure
import PagedListing.Projection
import PagedListing.Query.Statement

set_option autoImplicit false

/-!
# Sessions

A session executes statements and answers them with rows. Here the answers are given
beforehand, one for each statement, and every statement is kept in the order of execution.
-/

namespace PagedListing

inductive Reply where
  | rows (rows : List (List Value))
  | failure (failure : Failure)
deriving Repr

/-- The answers that are still to come, and the statements executed so far. -/
structure Session where
  script : List Reply
  executed : List Statement := []
deriving Repr

/-- Work that executes statements and may fail. A failure undoes nothing. -/
abbrev SessionM := ExceptT Failure (StateM Session)

/-- The cells of a row under the logical names of a projection. -/
def Projection.scan (projection : Projection) (row : List Value) : Except Failure Record :=
  if row.length < projection.size then .error .rowTooShort
  else if projection.size < row.length then .error .rowTooLong
  else .ok (projection.names.zip row)

namespace Session

/-- Executes a query. A script that has run out answers with no rows. -/
def execute (query : Query) : SessionM (List (List Value)) := do
  let session ← get
  set { session with
    script := session.script.tail
    executed := session.executed ++ [query.bind] }
  match session.script.head? with
  | some (.rows rows) => return rows
  | some (.failure failure) => throw failure
  | none => return []

/-- The first cell of the first row, or null. -/
def fetchScalar (query : Query) : SessionM Value := do
  let rows ← execute query
  return (rows.head?.bind List.head?).getD .null

def fetchOne (query : Query) (projection : Projection) : SessionM Record := do
  match (← execute query).head? with
  | some row => projection.scan row
  | none => throw (.reported (.notFound none) none)

def fetchMany (query : Query) (projection : Projection) : SessionM (List Record) := do
  let rows ← execute query
  rows.mapM fun row => projection.scan row

def run {α : Type} (script : List Reply) (work : SessionM α) :
    Except Failure α × List Statement :=
  let (outcome, session) := StateT.run (ExceptT.run work) { script }
  (outcome, session.executed)

end Session

theorem Projection.scan_eq_ok_iff {projection : Projection} {row : List Value}
    {record : Record} :
    projection.scan row = .ok record ↔
      row.length = projection.size ∧ record = projection.names.zip row := by
  unfold Projection.scan
  split
  · simp; omega
  · split
    · simp; omega
    · have same : row.length = projection.size := by omega
      simp [same, eq_comm]

end PagedListing
