import PagedListing.Text.Quoted

set_option autoImplicit false

/-!
# Projections

A projection names the columns of one table that queries may use. Each logical name
stands for one column; registering a name again replaces its column and keeps its place.
-/

namespace PagedListing

/-- The columns of one table under their logical names, in order of registration. -/
structure Projection where
  schema : String
  tableName : String
  shortName : String
  columns : List (String × String) := []
  names_nodup : (columns.map Prod.fst).Nodup := by decide
deriving Repr

namespace Projection

/-- Registers a column under a name, in the place of the name if it has one. -/
def register (columns : List (String × String)) (name column : String) :
    List (String × String) :=
  match columns with
  | [] => [(name, column)]
  | entry :: rest =>
      if entry.1 = name then (name, column) :: rest
      else entry :: register rest name column

theorem mem_names_register {columns : List (String × String)} {name column other : String} :
    other ∈ (register columns name column).map Prod.fst ↔
      other ∈ columns.map Prod.fst ∨ other = name := by
  induction columns with
  | nil => simp [register]
  | cons entry rest ih =>
      by_cases same : entry.1 = name
      · simp only [register, same, if_true, List.map_cons, List.mem_cons]
        constructor
        · rintro (equal | member)
          · exact Or.inr equal
          · exact Or.inl (Or.inr member)
        · rintro ((equal | member) | equal)
          · exact Or.inl equal
          · exact Or.inr member
          · exact Or.inl equal
      · simp only [register, same, if_false, List.map_cons, List.mem_cons, ih]
        exact or_assoc.symm

theorem register_nodup {columns : List (String × String)} (name column : String)
    (nodup : (columns.map Prod.fst).Nodup) :
    ((register columns name column).map Prod.fst).Nodup := by
  induction columns with
  | nil => simp [register]
  | cons entry rest ih =>
      simp only [List.map_cons, List.nodup_cons] at nodup
      by_cases same : entry.1 = name
      · subst same
        simpa [register] using nodup
      · simp only [register, same, if_false, List.map_cons, List.nodup_cons]
        refine ⟨fun member => ?_, ih nodup.2⟩
        rcases mem_names_register.mp member with inRest | equal
        · exact nodup.1 inRest
        · exact same equal

def project (projection : Projection) (column name : String) : Projection :=
  { projection with
    columns := register projection.columns name column
    names_nodup := register_nodup name column projection.names_nodup }

/-- The projection of a table with columns registered in order, each before its name. -/
def ofColumns (schema tableName shortName : String) (columns : List (String × String)) :
    Projection :=
  columns.foldl (fun projection entry => projection.project entry.1 entry.2)
    { schema, tableName, shortName }

def table (projection : Projection) : String :=
  projection.schema ++ "." ++ projection.tableName ++ " " ++ projection.shortName

def qualify (projection : Projection) (column : String) : String :=
  projection.shortName ++ "." ++ column

/-- What a name stands for in a statement. A name that is not registered stands for
itself. -/
def column (projection : Projection) (name : String) : String :=
  match projection.columns.lookup name with
  | some column => projection.qualify column
  | none => name

def columnList (projection : Projection) : List String :=
  projection.columns.map fun entry => projection.qualify entry.2

def selectList (projection : Projection) : String :=
  ", ".intercalate projection.columnList

def names (projection : Projection) : List String :=
  projection.columns.map Prod.fst

/-- How many columns the select list has. -/
def size (projection : Projection) : Nat := projection.columns.length

def contains (projection : Projection) (name : String) : Bool :=
  projection.names.contains name

/-- A projection as it is shown in reports: its table and its logical names. -/
def describe (projection : Projection) : String :=
  let quote := fun text : String => String.ofList (Text.quoted text.toList)
  "Projection(" ++ quote projection.table ++ ", fields=[" ++
    ", ".intercalate (projection.names.map quote) ++ "])"

@[simp]
theorem length_names (projection : Projection) : projection.names.length = projection.size := by
  simp [names, size]

@[simp]
theorem length_columnList (projection : Projection) :
    projection.columnList.length = projection.size := by
  simp [columnList, size]

end Projection

end PagedListing
