import PagedListing.Http.Content
import PagedListing.Proofs.Value.Writable

set_option autoImplicit false

/-!
# What can be sent as a page

A page can be sent when each value of its rows can: the value is nested less deeply than a row
may be, and none of its integers is too long to write.
-/

namespace PagedListing.Http

structure Sendable (value : Value) : Prop where
  flat : nesting value < maxNesting
  writable : (withoutInfinities value).isWritable = true

instance (value : Value) : Decidable (Sendable value) :=
  decidable_of_iff (nesting value < maxNesting ∧ (withoutInfinities value).isWritable = true)
    ⟨fun ⟨flat, writable⟩ => ⟨flat, writable⟩, fun ⟨flat, writable⟩ => ⟨flat, writable⟩⟩

theorem fieldsNesting_lt_iff {fields : Record} {bound : Nat} (positive : 0 < bound) :
    fieldsNesting fields < bound ↔ ∀ field ∈ fields, nesting field.2 < bound := by
  induction fields with
  | nil => simpa [fieldsNesting] using positive
  | cons field rest ih =>
      simp only [fieldsNesting, List.mem_cons, forall_eq_or_imp, ← ih]
      omega

theorem itemsWithoutInfinities_eq_map (items : List Value) :
    itemsWithoutInfinities items = items.map withoutInfinities := by
  induction items with
  | nil => rfl
  | cons item rest ih => rw [itemsWithoutInfinities, ih, List.map_cons]

theorem fieldsWithoutInfinities_eq_map (fields : Record) :
    fieldsWithoutInfinities fields =
      fields.map fun field => (field.1, withoutInfinities field.2) := by
  induction fields with
  | nil => rfl
  | cons field rest ih => rw [fieldsWithoutInfinities, ih, List.map_cons]

theorem isWritable_withoutInfinities_record {row : Record} :
    (withoutInfinities (.record row)).isWritable = true ↔
      ∀ field ∈ row, (withoutInfinities field.2).isWritable = true := by
  rw [withoutInfinities, Value.isWritable, Value.fieldsWritable_iff, fieldsWithoutInfinities_eq_map]
  constructor
  · intro writable field member
    exact writable _ (List.mem_map_of_mem member)
  · intro writable changed member
    obtain ⟨field, inRow, rfl⟩ := List.mem_map.mp member
    exact writable field inRow

theorem isWritable_withoutInfinities_rows (rows : List Record) :
    (withoutInfinities (.list (rows.map .record))).isWritable = true ↔
      ∀ row ∈ rows, ∀ field ∈ row, (withoutInfinities field.2).isWritable = true := by
  rw [withoutInfinities, Value.isWritable, Value.allWritable_iff, itemsWithoutInfinities_eq_map,
    List.map_map]
  constructor
  · intro writable row member
    exact isWritable_withoutInfinities_record.mp (writable _ (List.mem_map_of_mem member))
  · intro writable item member
    obtain ⟨row, inRows, rfl⟩ := List.mem_map.mp member
    exact isWritable_withoutInfinities_record.mpr (writable row inRows)

/-- The numbers that a page tells about the listing can be written. -/
structure Tellable (result : Pagination.Result) : Prop where
  total : Number.isWritable result.total = true
  page : Number.isWritable result.page = true
  size : Number.isWritable result.size = true
  pages : Number.isWritable result.pages = true

theorem isWritable_pageValue {result : Pagination.Result} (tellable : Tellable result) :
    (withoutInfinities (pageValue result)).isWritable =
      (withoutInfinities (.list result.data)).isWritable := by
  simp [pageValue, withoutInfinities, fieldsWithoutInfinities, Value.isWritable,
    Value.fieldsWritable, tellable.total, tellable.page, tellable.size, tellable.pages]

theorem any_nested_eq_false_iff (rows : List Record) :
    ((rows.map Value.record).any fun row => maxNesting < nesting row) = false ↔
      ∀ row ∈ rows, ∀ field ∈ row, nesting field.2 < maxNesting := by
  have positive : 0 < maxNesting := by decide
  have whole (row : Record) : ¬maxNesting < nesting (.record row) ↔
      ∀ field ∈ row, nesting field.2 < maxNesting := by
    rw [← fieldsNesting_lt_iff positive, nesting]
    omega
  rw [List.any_eq_false]
  constructor
  · intro none row member
    have flat := none _ (List.mem_map_of_mem member)
    rw [decide_eq_true_eq] at flat
    exact (whole row).mp flat
  · intro flat item member
    obtain ⟨row, inRows, rfl⟩ := List.mem_map.mp member
    rw [decide_eq_true_eq]
    exact (whole row).mpr (flat row inRows)

/-- A page of records can be sent exactly if each of their values can. -/
theorem isSome_pageContent?_iff {result : Pagination.Result} {rows : List Record}
    (tellable : Tellable result) (data : result.data = rows.map .record) :
    (pageContent? result).isSome = true ↔ ∀ row ∈ rows, ∀ field ∈ row, Sendable field.2 := by
  have flat := any_nested_eq_false_iff rows
  have writable := isWritable_withoutInfinities_rows rows
  rw [← data] at flat writable
  rw [← isWritable_pageValue tellable] at writable
  unfold pageContent? writable?
  constructor
  · intro sent row member field inRow
    split at sent
    case isTrue => cases sent
    case isFalse shallow =>
      split at sent
      case isFalse => cases sent
      case isTrue told =>
        exact ⟨flat.mp (Bool.eq_false_iff.mpr shallow) row member field inRow,
          writable.mp told row member field inRow⟩
  · intro sendable
    have shallow := flat.mpr fun row member field inRow => (sendable row member field inRow).flat
    have told := writable.mpr fun row member field inRow =>
      (sendable row member field inRow).writable
    rw [if_neg (by simp [shallow]), if_pos told]
    rfl

end PagedListing.Http
