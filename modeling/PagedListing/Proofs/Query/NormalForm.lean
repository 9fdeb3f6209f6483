import PagedListing.Proofs.Query.History
import PagedListing.Proofs.Query.Outline

set_option autoImplicit false

/-!
# The calls that count

Of everything that is done with a builder only two things matter to what it writes: the calls
that narrow, in their order, and the last call that orders. Whether a call narrows can be told
from the call alone.
-/

namespace PagedListing

theorem filterMap_filter_of_isSome {α β : Type} {read : α → Option β} {keep : α → Bool}
    (kept : ∀ item, (read item).isSome = keep item) (items : List α) :
    (items.filter keep).filterMap read = items.filterMap read := by
  rw [List.filterMap_filter]
  refine List.filterMap_congr fun item _ => ?_
  rw [← kept]
  cases read item <;> rfl

theorem filterMap_eq_nil_of_isSome {α β : Type} {read : α → Option β} {keep : α → Bool}
    (kept : ∀ item, (read item).isSome = keep item) {items : List α}
    (dropped : ∀ item ∈ items, keep item = false) : items.filterMap read = [] := by
  refine List.filterMap_eq_nil_iff.mpr fun item member => ?_
  rw [← Option.isNone_iff_eq_none, ← Option.not_isSome, kept, dropped item member]
  rfl

theorem getLast?_filterMap_eq_bind {α β : Type} {read : α → Option β} {keep : α → Bool}
    (kept : ∀ item, (read item).isSome = keep item) (items : List α) :
    (items.filterMap read).getLast? = (items.filter keep).getLast?.bind read := by
  rw [← filterMap_filter_of_isSome kept]
  rcases List.eq_nil_or_concat (items.filter keep) with none | ⟨before, last, split⟩
  · rw [none]
    rfl
  · rw [List.concat_eq_append] at split
    have member : last ∈ items.filter keep := by
      rw [split]
      exact List.mem_append_right before List.mem_cons_self
    have found : (read last).isSome = true := by
      rw [kept]
      exact (List.mem_filter.mp member).2
    obtain ⟨value, found⟩ := Option.isSome_iff_exists.mp found
    simp [split, found]

namespace Refinement

/-- Whether a call narrows: the value, the text or the values that it compares with are present,
and a search has fields to look into. -/
def narrows : Refinement → Bool
  | .whereEquals _ .null => false
  | .whereEquals _ _ => true
  | .whereContains _ text => present text
  | .whereIn _ values => !values.isEmpty
  | .whereSearch text fields => present text && !fields.isEmpty
  | .orderBy _ _ | .orderByFields _ => false

def orders : Refinement → Bool
  | .orderBy _ _ | .orderByFields _ => true
  | _ => false

theorem isSome_condition? (projection : Projection) (call : Refinement) :
    (Builder.condition? projection call).isSome = call.narrows := by
  cases call with
  | whereEquals field value => cases value <;> rfl
  | whereContains field text =>
      rw [condition?_whereContains, narrows]
      cases present text <;> rfl
  | whereIn field values => cases values <;> rfl
  | whereSearch text fields =>
      rw [condition?_whereSearch, narrows]
      cases present text with
      | false => rfl
      | true => cases fields <;> rfl
  | orderBy | orderByFields => rfl

theorem isSome_ordering? (call : Refinement) :
    (Builder.ordering? call).isSome = call.orders := by
  cases call <;> rfl

theorem orders_of_narrows {call : Refinement} (narrows : call.narrows = true) :
    call.orders = false := by
  cases call with
  | orderBy | orderByFields => cases narrows
  | whereEquals | whereContains | whereIn | whereSearch => rfl

theorem narrows_of_orders {call : Refinement} (orders : call.orders = true) :
    call.narrows = false := by
  cases call with
  | orderBy | orderByFields => rfl
  | whereEquals | whereContains | whereIn | whereSearch => cases orders

end Refinement

namespace Builder

open Refinement

/-- The calls that narrow, in their order, and behind them the last call that orders. -/
def normalForm (calls : List Refinement) : List Refinement :=
  calls.filter narrows ++ (calls.filter orders).getLast?.toList

/-- The last ordering that was set stays, whatever came before it or narrowed since. -/
theorem explicitSort_refineAll (builder : Builder) (calls : List Refinement) :
    (builder.refineAll calls).explicitSort =
      (calls.filterMap ordering?).getLast?.getD builder.explicitSort := by
  induction calls generalizing builder with
  | nil => rfl
  | cons call rest ih =>
      have set : (builder.refine call).explicitSort =
          (ordering? call).getD builder.explicitSort := rfl
      rw [refineAll_cons, ih, set]
      cases ordered : ordering? call with
      | none => rw [List.filterMap_cons_none ordered, Option.getD_none]
      | some sort =>
          rw [List.filterMap_cons_some ordered, List.getLast?_cons, Option.getD_some,
            Option.getD_some]

theorem mem_orders_of_last {calls : List Refinement} {call : Refinement}
    (last : call ∈ (calls.filter orders).getLast?.toList) : call.orders = true :=
  (List.mem_filter.mp (List.mem_of_getLast? (Option.mem_toList.mp last))).2

theorem conditions_normalForm (projection : Projection) (calls : List Refinement) :
    (normalForm calls).filterMap (condition? projection) =
      calls.filterMap (condition? projection) := by
  have ordering : (calls.filter orders).getLast?.toList.filterMap (condition? projection) = [] :=
    filterMap_eq_nil_of_isSome (isSome_condition? projection) fun _ last =>
      narrows_of_orders (mem_orders_of_last last)
  rw [normalForm, List.filterMap_append, ordering, List.append_nil,
    filterMap_filter_of_isSome (isSome_condition? projection)]

theorem ordering_normalForm (calls : List Refinement) :
    ((normalForm calls).filterMap ordering?).getLast? =
      (calls.filterMap ordering?).getLast? := by
  have narrowing : (calls.filter narrows).filterMap ordering? = [] :=
    filterMap_eq_nil_of_isSome isSome_ordering? fun _ member =>
      orders_of_narrows (List.mem_filter.mp member).2
  rw [normalForm, List.filterMap_append, narrowing, List.nil_append,
    getLast?_filterMap_eq_bind isSome_ordering? calls]
  cases (calls.filter orders).getLast? with
  | none => rfl
  | some call => cases ordered : ordering? call <;> simp [ordered]

theorem eq_of_parts {builder other : Builder} (projection : builder.projection = other.projection)
    (defaultSort : builder.defaultSort = other.defaultSort)
    (explicitSort : builder.explicitSort = other.explicitSort)
    (conditions : builder.conditions = other.conditions) : builder = other := by
  cases builder
  cases other
  cases projection
  cases defaultSort
  cases explicitSort
  cases conditions
  rfl

theorem refineAll_of_ordering?_eq_none (builder : Builder) {calls : List Refinement}
    (narrowing : ∀ call ∈ calls, ordering? call = none) :
    builder.refineAll calls = { builder with
      conditions := builder.conditions ++ calls.filterMap (condition? builder.projection) } := by
  have sorts : (builder.refineAll calls).explicitSort = builder.explicitSort := by
    rw [explicitSort_refineAll, List.filterMap_eq_nil_iff.mpr narrowing]
    rfl
  exact eq_of_parts (projection_refineAll builder calls) (defaultSort_refineAll builder calls)
    sorts (conditions_refineAll builder calls)

/-- A builder does not tell a list of calls from its normal form. -/
theorem refineAll_normalForm (builder : Builder) (calls : List Refinement) :
    builder.refineAll (normalForm calls) = builder.refineAll calls := by
  have conditions : (builder.refineAll (normalForm calls)).conditions =
      (builder.refineAll calls).conditions := by
    rw [conditions_refineAll, conditions_refineAll, conditions_normalForm]
  have sorts : (builder.refineAll (normalForm calls)).explicitSort =
      (builder.refineAll calls).explicitSort := by
    rw [explicitSort_refineAll, explicitSort_refineAll, ordering_normalForm]
  refine eq_of_parts ?_ ?_ sorts conditions
  · rw [projection_refineAll, projection_refineAll]
  · rw [defaultSort_refineAll, defaultSort_refineAll]

theorem emits_whereEquals {builder : Builder} {text : String} {values : List Value}
    (emits : builder.Emits text values) (field : String) {value : Value}
    (given : value ≠ .null) :
    (builder.refine (.whereEquals field value)).Emits
      (Condition.conjoined text
        (builder.projection.column field ++ " = " ++ placeholder (values.length + 1)))
      (values ++ [value]) := by
  obtain ⟨rfl, rfl⟩ := emits.eq
  have added : condition? builder.projection (.whereEquals field value) =
      some (.equals (builder.projection.column field) value) :=
    condition?_whereEquals builder.projection field given
  have text : (builder.refine (.whereEquals field value)).conditionText =
      Condition.conjoined builder.conditionText
        (builder.projection.column field ++ " = " ++
          placeholder (builder.arguments.length + 1)) := by
    rw [conditionText_refine, clause?, added]
    rfl
  have bound : (builder.refine (.whereEquals field value)).arguments =
      builder.arguments ++ [value] := by
    simp only [arguments, refine, added, Condition.argumentsOf_append]
    rfl
  rw [← text, ← bound]
  exact emits_conditionText _

/-- After any history a builder writes what a fresh one writes that has only seen the calls that
narrow and then the last call that orders. A comparison with any value that is there, be it
empty or zero, is among those that narrow. -/
theorem emit?_normalForm (projection : Projection) (defaultSort : List SortField)
    (history : List Turn) :
    (∀ emission, ((fresh projection defaultSort).after history).emit? emission =
      ((fresh projection defaultSort).refineAll (normalForm (callsOf history))).emit?
        emission) ∧
    ∀ (field : String) (value : Value) (text : String) (values : List Value), value ≠ .null →
      ((fresh projection defaultSort).after history).Emits text values →
      ((fresh projection defaultSort).after
          (history ++ [.refine (.whereEquals field value)])).Emits
        (Condition.conjoined text
          (projection.column field ++ " = " ++ placeholder (values.length + 1)))
        (values ++ [value]) := by
  constructor
  · intro emission
    rw [refineAll_normalForm, after_eq_refineAll]
  · intro field value text values given emits
    have kept : ((fresh projection defaultSort).after history).projection = projection := by
      rw [after_eq_refineAll, projection_refineAll]
      rfl
    have added := emits_whereEquals emits field given
    rw [kept] at added
    rw [after_concat]
    exact added

def idleHistory : List Turn :=
  [.refine (.orderBy "Status" false), .refine (.whereIn "Status" []),
    .refine (.whereEquals "Result" (.int 0)), .emit (.page 1 10), .refine (.orderByFields []),
    .apply (.runs none []), .refine (.whereSearch (some "late") [])]

theorem emit?_normalForm_idleHistory :
    let start := fresh Resource.runs.projection Resource.runs.defaultSort
    (start.after idleHistory).emit? .all =
        (start.refineAll [.whereEquals "Result" (.int 0), .orderByFields []]).emit? .all ∧
      (start.after (idleHistory ++ [.refine (.whereEquals "Status" (.text ""))])).Emits
        "r.result = $1 AND r.status = $2" [.int 0, .text ""] := by
  obtain ⟨written, growing⟩ :=
    emit?_normalForm Resource.runs.projection Resource.runs.defaultSort idleHistory
  exact ⟨written .all, growing "Status" (.text "") "r.result = $1" [.int 0] (by simp)
    (emits_conditionText _)⟩

end Builder

end PagedListing
