import Mathlib.Data.List.Forall2
import PagedListing.Proofs.Query.Emission

set_option autoImplicit false

/-!
# What the text of a query depends on

The outline of a condition is its kind, its columns and the number of its values. Builders
whose conditions have equal outlines write equal texts, whatever the values are.
-/

namespace PagedListing

def present : Option String → Bool
  | some text => text != ""
  | none => false

namespace Condition

def outline : Condition → Condition
  | .equals column _ => .equals column .null
  | .contains column _ => .contains column ""
  | .oneOf column values => .oneOf column (values.map fun _ => .null)
  | .anyContains columns _ => .anyContains columns ""

@[simp] theorem render_outline (first : Nat) (condition : Condition) :
    condition.outline.render first = condition.render first := by
  cases condition with
  | equals | contains | anyContains => rfl
  | oneOf column values => simp [outline, render]

@[simp] theorem length_arguments_outline (condition : Condition) :
    condition.outline.arguments.length = condition.arguments.length := by
  cases condition <;> simp [outline, arguments]

theorem renderFrom_outline (first : Nat) (conditions : List Condition) :
    renderFrom first (conditions.map outline) = renderFrom first conditions := by
  induction conditions generalizing first with
  | nil => rfl
  | cons condition rest ih => simp [renderFrom, ih]

theorem renderFrom_eq_of_outline {conditions others : List Condition}
    (same : conditions.map outline = others.map outline) (first : Nat) :
    renderFrom first conditions = renderFrom first others := by
  rw [← renderFrom_outline, same, renderFrom_outline]

end Condition

namespace Refinement

/-- Two calls of one kind on the same fields that differ in their values alone, not in
whether these are present nor in how many there are. -/
inductive SameShape : Refinement → Refinement → Prop where
  | whereEquals {field : String} {value other : Value} :
      (value = .null ↔ other = .null) →
      SameShape (.whereEquals field value) (.whereEquals field other)
  | whereContains {field : String} {text other : Option String} :
      present text = present other →
      SameShape (.whereContains field text) (.whereContains field other)
  | whereIn {field : String} {values others : List Value} :
      values.length = others.length →
      SameShape (.whereIn field values) (.whereIn field others)
  | whereSearch {text other : Option String} {fields : List String} :
      present text = present other →
      SameShape (.whereSearch text fields) (.whereSearch other fields)
  | orderBy {field : String} {descending : Bool} :
      SameShape (.orderBy field descending) (.orderBy field descending)
  | orderByFields {fields : List SortField} :
      SameShape (.orderByFields fields) (.orderByFields fields)

theorem SameShape.ordering?_eq {call other : Refinement} (same : SameShape call other) :
    Builder.ordering? call = Builder.ordering? other := by
  cases same <;> rfl

theorem condition?_whereContains (projection : Projection) (field : String)
    (text : Option String) :
    Builder.condition? projection (.whereContains field text) =
      if present text = true then some (.contains (projection.column field) (text.getD ""))
      else none := by
  cases text with
  | none => rfl
  | some text => by_cases empty : text = "" <;> simp [Builder.condition?, present, empty]

theorem condition?_whereSearch (projection : Projection) (text : Option String)
    (fields : List String) :
    Builder.condition? projection (.whereSearch text fields) =
      if present text = true ∧ fields ≠ [] then
        some (.anyContains (fields.map projection.column) (text.getD ""))
      else none := by
  cases text with
  | none => simp [Builder.condition?, present]
  | some text =>
      by_cases empty : text = ""
      · simp [Builder.condition?, present, empty]
      · cases fields <;> simp [Builder.condition?, present, empty]

theorem condition?_whereEquals (projection : Projection) (field : String) {value : Value}
    (some : value ≠ .null) :
    Builder.condition? projection (.whereEquals field value) =
      Option.some (.equals (projection.column field) value) := by
  cases value with
  | null => exact absurd rfl some
  | bool | int | decimal | text | list | record => rfl

theorem SameShape.outline_condition? {call other : Refinement} (same : SameShape call other)
    (projection : Projection) :
    (Builder.condition? projection call).map Condition.outline =
      (Builder.condition? projection other).map Condition.outline := by
  cases same with
  | @whereEquals field value other absent =>
      by_cases null : value = .null
      · rw [null, absent.mp null]
      · have otherSome : other ≠ .null := fun isNull => null (absent.mpr isNull)
        rw [condition?_whereEquals projection field null,
          condition?_whereEquals projection field otherSome]
        rfl
  | whereContains absent =>
      rw [condition?_whereContains, condition?_whereContains, absent]
      split <;> rfl
  | @whereIn field values others lengths =>
      cases values with
      | nil =>
          have none : others = [] := List.length_eq_zero_iff.mp lengths.symm
          rw [none]
      | cons value rest =>
          cases others with
          | nil => cases lengths
          | cons other more =>
              have values : (value :: rest).map (fun _ => Value.null) =
                  (other :: more).map fun _ => Value.null := by
                rw [List.map_const', List.map_const', lengths]
              simp only [Builder.condition?, List.isEmpty_cons, Bool.false_eq_true, if_false,
                Option.map_some, Condition.outline, values]
  | whereSearch absent =>
      rw [condition?_whereSearch, condition?_whereSearch, absent]
      split <;> rfl
  | orderBy => rfl
  | orderByFields => rfl

end Refinement

namespace Builder

structure SameOutline (builder other : Builder) : Prop where
  projection : builder.projection = other.projection
  defaultSort : builder.defaultSort = other.defaultSort
  explicitSort : builder.explicitSort = other.explicitSort
  conditions : builder.conditions.map Condition.outline = other.conditions.map Condition.outline

namespace SameOutline

variable {builder other : Builder}

theorem refine (same : SameOutline builder other) {call call' : Refinement}
    (shape : Refinement.SameShape call call') :
    SameOutline (builder.refine call) (other.refine call') where
  projection := same.projection
  defaultSort := same.defaultSort
  explicitSort := by simp only [Builder.refine, shape.ordering?_eq, same.explicitSort]
  conditions := by
    have added := shape.outline_condition? other.projection
    simp only [Builder.refine, List.map_append, same.conditions, same.projection]
    rw [← Option.toList_map, ← Option.toList_map, added]

theorem refineAll (same : SameOutline builder other) {calls calls' : List Refinement}
    (shapes : List.Forall₂ Refinement.SameShape calls calls') :
    SameOutline (builder.refineAll calls) (other.refineAll calls') := by
  induction shapes generalizing builder other with
  | nil => exact same
  | cons shape _ ih =>
      rw [refineAll_cons, refineAll_cons]
      exact ih (same.refine shape)

theorem whereClause_eq (same : SameOutline builder other) :
    builder.whereClause = other.whereClause := by
  have none : builder.conditions.isEmpty = other.conditions.isEmpty := by
    simpa using congrArg List.isEmpty same.conditions
  rw [whereClause, whereClause, none, Condition.conjunction, Condition.conjunction,
    Condition.renderFrom_eq_of_outline same.conditions]

theorem orderClause_eq (same : SameOutline builder other) :
    builder.orderClause = other.orderClause := by
  have sorts : builder.sort = other.sort := by
    rw [sort, sort, same.explicitSort, same.defaultSort]
  rw [orderClause, orderClause, sorts, same.projection]

theorem sql_count_eq (same : SameOutline builder other) : builder.count.sql = other.count.sql := by
  rw [sql_count, sql_count, same.projection, same.whereClause_eq]

theorem sql_all_eq (same : SameOutline builder other) : builder.all.sql = other.all.sql := by
  rw [sql_all, sql_all, selection, selection, same.projection, same.whereClause_eq,
    same.orderClause_eq]

theorem sql_page?_eq (same : SameOutline builder other) (page size : Int) :
    (builder.page? page size).map Query.sql = (other.page? page size).map Query.sql := by
  by_cases printable : (Emission.page page size).Printable
  · rw [page?_of_printable builder printable, page?_of_printable other printable]
    simp only [Option.map_some, same.sql_all_eq]
  · rw [page?_eq_none_of_not_printable builder printable,
      page?_eq_none_of_not_printable other printable]

end SameOutline

end Builder

end PagedListing
