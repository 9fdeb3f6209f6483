import Mathlib.Data.List.Forall2
import PagedListing.Proofs.Session.Run

set_option autoImplicit false

/-!
# Select lists, names and cells in one order

The names of a projection stand in the order of their first registration, each with the column
that was registered last. The select list follows the names, and so do the cells of a row: a row
is read only if it has a cell for each name.
-/

namespace PagedListing

/-- Where keys are distinct, every entry is the one that is found under its key. -/
theorem lookup_of_mem {β : Type} {entries : List (String × β)}
    (distinct : (entries.map Prod.fst).Nodup) {key : String} {value : β}
    (member : (key, value) ∈ entries) : entries.lookup key = some value := by
  obtain ⟨before, after, rfl⟩ := List.append_of_mem member
  refine List.lookup_eq_some_iff.mpr ⟨before, after, rfl, fun entry earlier => ?_⟩
  rw [List.map_append, List.map_cons] at distinct
  have apart := (List.nodup_append.mp distinct).2.2 entry.1 (List.mem_map_of_mem earlier) key
    List.mem_cons_self
  simpa using apart.symm

namespace Projection

/-!
## Columns as they were registered

A registration has the column in front of its name.
-/

/-- A name that is registered again keeps its place, a new one comes last. -/
theorem names_register (columns : List (String × String)) (name column : String) :
    (register columns name column).map Prod.fst =
      if name ∈ columns.map Prod.fst then columns.map Prod.fst
      else columns.map Prod.fst ++ [name] := by
  induction columns with
  | nil => rfl
  | cons entry rest ih =>
      by_cases same : entry.1 = name
      · simp [register, same]
      · have other : name ≠ entry.1 := fun equal => same equal.symm
        simp only [register, same, if_false, List.map_cons, ih, List.mem_cons, other, false_or]
        split <;> rfl

theorem lookup_register_self (columns : List (String × String)) (name column : String) :
    (register columns name column).lookup name = some column := by
  induction columns with
  | nil => exact List.lookup_cons_self
  | cons entry rest ih =>
      obtain ⟨known, kept⟩ := entry
      by_cases same : known = name
      · simp only [register, same, if_true, List.lookup_cons_self]
      · have unlike : (name == known) = false := beq_eq_false_iff_ne.mpr (Ne.symm same)
        simp only [register, same, if_false, List.lookup_cons, unlike, ih]

theorem lookup_register_of_ne (columns : List (String × String)) {name other : String}
    (apart : other ≠ name) (column : String) :
    (register columns name column).lookup other = columns.lookup other := by
  have unlike : (other == name) = false := beq_eq_false_iff_ne.mpr apart
  induction columns with
  | nil => simp only [register, List.lookup_cons, unlike, List.lookup_nil]
  | cons entry rest ih =>
      obtain ⟨known, kept⟩ := entry
      by_cases same : known = name
      · simp only [register, same, if_true, List.lookup_cons, unlike]
      · simp only [register, same, if_false, List.lookup_cons, ih]

def lastColumn? (registrations : List (String × String)) (name : String) : Option String :=
  (registrations.filter fun entry => entry.2 = name).getLast?.map Prod.fst

def FirstBefore (registrations : List (String × String)) (earlier later : String) : Prop :=
  (registrations.map Prod.snd).idxOf earlier < (registrations.map Prod.snd).idxOf later

variable {registrations columns : List (String × String)}

theorem FirstBefore.append {earlier later : String}
    (before : FirstBefore registrations earlier later)
    (registered : earlier ∈ registrations.map Prod.snd)
    (registered' : later ∈ registrations.map Prod.snd) (further : List (String × String)) :
    FirstBefore (registrations ++ further) earlier later := by
  rwa [FirstBefore, List.map_append, List.idxOf_append_of_mem registered,
    List.idxOf_append_of_mem registered']

theorem FirstBefore.of_new {earlier name : String}
    (registered : earlier ∈ registrations.map Prod.snd)
    (new : name ∉ registrations.map Prod.snd) (column : String) :
    FirstBefore (registrations ++ [(column, name)]) earlier name := by
  rw [FirstBefore, List.map_append, List.idxOf_append_of_mem registered,
    List.idxOf_append_of_notMem new]
  exact Nat.lt_add_right _ (List.idxOf_lt_length_of_mem registered)

structure Holds (registrations columns : List (String × String)) : Prop where
  names : ∀ name, name ∈ columns.map Prod.fst ↔ name ∈ registrations.map Prod.snd
  ordered : (columns.map Prod.fst).Pairwise (FirstBefore registrations)
  lookup : ∀ name, columns.lookup name = lastColumn? registrations name

namespace Holds

theorem empty : Holds [] [] where
  names := fun _ => Iff.rfl
  ordered := List.Pairwise.nil
  lookup := fun _ => rfl

theorem register (holds : Holds registrations columns) (column name : String) :
    Holds (registrations ++ [(column, name)]) (Projection.register columns name column) where
  names := by
    intro other
    rw [mem_names_register, holds.names, List.map_append, List.mem_append]
    exact or_congr_right List.mem_singleton.symm
  ordered := by
    have kept : (columns.map Prod.fst).Pairwise (FirstBefore (registrations ++ [(column, name)])) :=
      holds.ordered.imp_of_mem fun first second before =>
        before.append ((holds.names _).mp first) ((holds.names _).mp second) _
    rw [names_register]
    split
    case isTrue => exact kept
    case isFalse absent =>
        have new : name ∉ registrations.map Prod.snd := fun registered =>
          absent ((holds.names name).mpr registered)
        refine List.pairwise_append.mpr ⟨kept, List.pairwise_singleton _ _, ?_⟩
        intro earlier member later isName
        rw [List.mem_singleton.mp isName]
        exact .of_new ((holds.names earlier).mp member) new column
  lookup := by
    intro other
    rw [lastColumn?, List.filter_append]
    by_cases asked : other = name
    · rw [asked, lookup_register_self]
      simp
    · rw [lookup_register_of_ne columns asked, holds.lookup, lastColumn?]
      simp [Ne.symm asked]

/-- Registering one column after the other keeps the account of all of them. -/
theorem projectAll {projection : Projection} (holds : Holds registrations projection.columns)
    (further : List (String × String)) :
    Holds (registrations ++ further)
      (further.foldl (fun projection entry => projection.project entry.1 entry.2)
        projection).columns := by
  induction further generalizing registrations projection with
  | nil => rwa [List.append_nil]
  | cons entry rest ih =>
      have next : Holds (registrations ++ [entry])
          (projection.project entry.1 entry.2).columns := holds.register entry.1 entry.2
      have all := ih next
      rwa [List.append_assoc] at all

end Holds

theorem holds_ofColumns (schema tableName shortName : String)
    (registrations : List (String × String)) :
    Holds registrations (ofColumns schema tableName shortName registrations).columns := by
  have start : Holds [] ({ schema, tableName, shortName } : Projection).columns := .empty
  exact start.projectAll registrations

theorem shortName_ofColumns (schema tableName shortName : String)
    (registrations : List (String × String)) :
    (ofColumns schema tableName shortName registrations).shortName = shortName := by
  have kept (projection : Projection) :
      (registrations.foldl (fun projection entry => projection.project entry.1 entry.2)
        projection).shortName = projection.shortName := by
    induction registrations generalizing projection with
    | nil => rfl
    | cons entry rest ih => exact ih (projection.project entry.1 entry.2)
  exact kept _

/-!
## Names, columns and cells by position
-/

/-- What a projection shows of registrations: the registered names, each once, in the order in
which they came first, and at the place of each name in the select list its last column behind
the short name of the table. -/
structure Shows (projection : Projection) (shortName : String)
    (registrations : List (String × String)) : Prop where
  names : ∀ name, name ∈ projection.names ↔ name ∈ registrations.map Prod.snd
  ordered : projection.names.Pairwise (FirstBefore registrations)
  length_names : projection.names.length = projection.size
  length_columnList : projection.columnList.length = projection.size
  column : ∀ (index : Nat) (name : String), projection.names[index]? = some name →
    ∃ column, lastColumn? registrations name = some column ∧
      projection.column name = shortName ++ "." ++ column ∧
      projection.columnList[index]? = some (projection.column name)
  unregistered : ∀ name, name ∉ registrations.map Prod.snd → projection.column name = name

theorem column_of_lookup {projection : Projection} {name column : String}
    (found : projection.columns.lookup name = some column) :
    projection.column name = projection.qualify column := by
  rw [Projection.column, found]

theorem shows_of_holds {projection : Projection} (holds : Holds registrations projection.columns) :
    projection.Shows projection.shortName registrations where
  names := holds.names
  ordered := holds.ordered
  length_names := projection.length_names
  length_columnList := projection.length_columnList
  column := by
    intro index name placed
    rw [Projection.names, List.getElem?_map, Option.map_eq_some_iff] at placed
    obtain ⟨entry, entered, rfl⟩ := placed
    have found : projection.columns.lookup entry.1 = some entry.2 :=
      lookup_of_mem projection.names_nodup (List.mem_of_getElem? entered)
    have qualified := column_of_lookup found
    refine ⟨entry.2, (holds.lookup entry.1).symm.trans found, qualified, ?_⟩
    rw [qualified, columnList, List.getElem?_map, entered]
    rfl
  unregistered := by
    intro name absent
    have missing : projection.columns.lookup name = none := by
      refine List.lookup_eq_none_iff.mpr fun entry member => ?_
      rw [bne_iff_ne]
      rintro rfl
      exact absent ((holds.names _).mp (List.mem_map_of_mem member))
    rw [Projection.column, missing]

structure ReadAs (projection : Projection) (row : List Value) (record : Record) : Prop where
  keys : record.map Prod.fst = projection.names
  cells : ∀ (index : Nat) (name : String), projection.names[index]? = some name →
    ∃ cell, row[index]? = some cell ∧ record.lookup name = some cell

theorem keys_zip {projection : Projection} {row : List Value}
    (wide : row.length = projection.size) :
    (projection.names.zip row).map Prod.fst = projection.names :=
  List.map_fst_zip (Nat.le_of_eq (by rw [length_names, wide]))

theorem readAs_zip {projection : Projection} {row : List Value}
    (wide : row.length = projection.size) :
    projection.ReadAs row (projection.names.zip row) where
  keys := keys_zip wide
  cells := by
    intro index name placed
    obtain ⟨inside, rfl⟩ := List.getElem?_eq_some_iff.mp placed
    have inRow : index < row.length := by rwa [wide, ← length_names]
    refine ⟨row[index], List.getElem?_eq_getElem inRow, lookup_of_mem ?_ ?_⟩
    · rw [keys_zip wide]
      exact projection.names_nodup
    · have entered : (projection.names.zip row)[index]? =
          some (projection.names[index], row[index]) := by
        rw [List.getElem?_zip_eq_some]
        exact ⟨List.getElem?_eq_getElem inside, List.getElem?_eq_getElem inRow⟩
      exact List.mem_of_getElem? entered

/-!
## Rows of the wrong width
-/

theorem mapM_scan_of_first {projection : Projection} {before : List (List Value)}
    {row : List Value} (wide : ∀ other ∈ before, other.length = projection.size)
    (odd : row.length ≠ projection.size) (after : List (List Value)) :
    (before ++ row :: after).mapM projection.scan = .error (projection.misfit row) := by
  rw [List.mapM_append, mapM_scan_of_wide wide, List.mapM_cons, scan_of_ne odd]
  rfl

/-- Rows are all as wide as a projection, or one of them is the first that is not. -/
theorem wide_or_first (projection : Projection) (rows : List (List Value)) :
    (∀ row ∈ rows, row.length = projection.size) ∨
      ∃ before row after, rows = before ++ row :: after ∧
        (∀ other ∈ before, other.length = projection.size) ∧ row.length ≠ projection.size := by
  induction rows with
  | nil => exact .inl fun _ member => absurd member List.not_mem_nil
  | cons first rest ih =>
      by_cases fits : first.length = projection.size
      · rcases ih with wide | ⟨before, row, after, rfl, wide, odd⟩
        · exact .inl (List.forall_mem_cons.mpr ⟨fits, wide⟩)
        · exact .inr ⟨first :: before, row, after, rfl, List.forall_mem_cons.mpr ⟨fits, wide⟩, odd⟩
      · exact .inr ⟨[], first, rest, rfl, fun _ member => absurd member List.not_mem_nil, fits⟩

/-- What comes of reading rows: a record for each, or the report on the first row that is not as
wide as the projection. -/
structure Reads (projection : Projection) (rows : List (List Value))
    (outcome : Except Failure (List Record)) : Prop where
  succeeds : (∃ records, outcome = .ok records) ↔ ∀ row ∈ rows, row.length = projection.size
  records : ∀ records, outcome = .ok records → List.Forall₂ projection.ReadAs rows records
  reports : ∀ before row after, rows = before ++ row :: after →
    (∀ other ∈ before, other.length = projection.size) → row.length ≠ projection.size →
    ∃ failure, outcome = .error failure ∧ failure.kind = .invalidValue ∧
      failure.message = "zip() argument 2 is " ++
        (if row.length < projection.size then "shorter" else "longer") ++ " than argument 1"

theorem reads_mapM_scan (projection : Projection) (rows : List (List Value)) :
    projection.Reads rows (rows.mapM projection.scan) where
  succeeds := by
    constructor
    · rintro ⟨records, read⟩
      rcases projection.wide_or_first rows with wide | ⟨before, row, after, rfl, wide, odd⟩
      · exact wide
      · rw [mapM_scan_of_first wide odd after] at read
        cases read
    · intro wide
      exact ⟨_, mapM_scan_of_wide wide⟩
  records := by
    intro records read
    rcases projection.wide_or_first rows with wide | ⟨before, row, after, rfl, wide, odd⟩
    · rw [mapM_scan_of_wide wide] at read
      cases read
      rw [List.forall₂_map_right_iff, List.forall₂_same]
      exact fun row member => readAs_zip (wide row member)
    · rw [mapM_scan_of_first wide odd after] at read
      cases read
  reports := by
    rintro before row after rfl wide odd
    refine ⟨projection.misfit row, mapM_scan_of_first wide odd after, ?_, ?_⟩
    all_goals
      unfold misfit
      split <;> rfl

/-- However often names are registered, the names of a projection, its select list and the cells
of the rows that are read with it stay in one order. -/
theorem ofColumns_aligned (schema tableName shortName : String)
    (registrations : List (String × String)) :
    (ofColumns schema tableName shortName registrations).Shows shortName registrations ∧
      ∀ (query : Query) (rows : List (List Value)) (later : List Reply),
        ∃ outcome,
          Session.run (.rows rows :: later)
              (Session.fetchMany query (ofColumns schema tableName shortName registrations)) =
            (outcome, [query.bind]) ∧
          (ofColumns schema tableName shortName registrations).Reads rows outcome := by
  have holds := holds_ofColumns schema tableName shortName registrations
  have shown := shows_of_holds holds
  rw [shortName_ofColumns] at shown
  refine ⟨shown, fun query rows later => ⟨_, ?_, reads_mapM_scan _ rows⟩⟩
  rw [Session.run_eq_steps, Session.steps_fetchMany]
  rfl

example :
    (ofColumns "lab" "runs" "r" [("id", "ID"), ("state", "Status"), ("uid", "ID")]).columnList =
      ["r.uid", "r.state"] := by decide

end Projection

end PagedListing
