import PagedListing.Resource
import PagedListing.Session

set_option autoImplicit false

/-!
# Lookups

A single row by its identifier, and the rows of other tables that belong to it.
-/

namespace PagedListing

/-- The builder for the rows that belong to an owner with a given identifier, unless the
text of the identifier is too long to write. -/
def ChildTable.builder? (table : ChildTable) (owner : Value) : Option Builder :=
  owner.display?.map fun id =>
    Builder.refine { projection := table.projection, defaultSort := table.defaultSort }
      (.whereEquals table.ownerField (.text id))

namespace Lookup

def query (resource : Resource) (id : Uuid) : Query :=
  Builder.single { projection := resource.projection } Resource.idField (.text id.canonical)

/-- A row that is missing is reported as a missing one of the resource. -/
def explain (resource : Resource) (failure : Failure) : Failure :=
  if failure.isNotFound then .missing resource else failure

def find (resource : Resource) (id : String) : SessionM Record :=
  match Uuid.parse? id with
  | none => throw (.malformedId id)
  | some id =>
      tryCatch (Session.fetchOne (query resource id) resource.projection) fun failure =>
        throw (explain resource failure)

def idOf (row : Record) : Value := (row.lookup Resource.idField).getD .null

def children (table : ChildTable) (row : Record) : SessionM (List Record) :=
  match table.builder? (idOf row) with
  | none => throw .numeralTooLong
  | some builder => Session.fetchMany builder.all table.projection

def stagesField : String := "Stages"

/-- The row with a given identifier as it is shown: that of a profile with its stages. -/
def detail (resource : Resource) (id : String) : SessionM Record := do
  let row ← find resource id
  match resource with
  | .profiles =>
      let stages ← children .profileStages row
      return row ++ [(stagesField, .list (stages.map .record))]
  | _ => return row

def runChildren (table : ChildTable) (id : String) : SessionM (List Record) := do
  let row ← find .runs id
  children table row

end Lookup

end PagedListing
