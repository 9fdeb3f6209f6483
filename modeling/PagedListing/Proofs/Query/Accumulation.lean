import PagedListing.Proofs.Query.History
import PagedListing.Proofs.Query.Numbering
import PagedListing.Proofs.Statement.Shift

set_option autoImplicit false

/-!
# Histories one after the other

The conditions of two histories in a row are those of the first and, with their numbers raised
by what the first has bound, those of the second. What is written once is never numbered anew.
-/

namespace PagedListing

open PagedListing.Statement PagedListing.Text

def raised (amount : Nat) (text : String) : String := String.ofList (raise amount text.toList)

variable (amount : Nat)

theorem toList_raised (text : String) : (raised amount text).toList = raise amount text.toList :=
  String.toList_ofList

theorem raise_plain {text : String} (plain : Plain text) :
    raise amount text.toList = text.toList :=
  raise_eq_self (unmarked_iff.mpr plain)

/-- Texts that are joined are raised one by one. -/
theorem raise_joined {separator : String} (separates : Separates separator.toList)
    {parts parts' : List String}
    (each : parts.map (fun part => raise amount part.toList) = parts'.map String.toList) :
    raise amount (separator.intercalate parts).toList =
      (separator.intercalate parts').toList := by
  rw [String.toList_intercalate, String.toList_intercalate, raise_intercalate separates,
    List.map_map, ← each]
  rfl

namespace Condition

theorem raise_placeholders (first count : Nat) :
    (placeholders first count).map (fun part => raise amount part.toList) =
      (placeholders (first + amount) count).map String.toList := by
  induction count generalizing first with
  | zero => rfl
  | succ count ih =>
      simp only [placeholders, List.map_cons, raise_placeholder, ih]
      rw [Nat.add_right_comm]

theorem raise_comparison {column : String} (plain : Plain column) (word : String)
    (separates : Separates word.toList) (number : Nat) :
    raise amount (column ++ word ++ placeholder number).toList =
      (column ++ word ++ placeholder (number + amount)).toList := by
  simp only [String.toList_append, List.append_assoc]
  rw [raise_append_separator _ separates, raise_plain amount plain, raise_placeholder]

theorem raise_comparisons (first : Nat) {columns : List String}
    (plain : ∀ column ∈ columns, Plain column) :
    (comparisons first columns).map (fun part => raise amount part.toList) =
      (comparisons (first + amount) columns).map String.toList := by
  induction columns generalizing first with
  | nil => rfl
  | cons column rest ih =>
      have head := raise_comparison amount (plain column List.mem_cons_self) " ILIKE "
        (by decide) first
      have tail := ih (first + 1) fun other member => plain other (List.mem_cons_of_mem _ member)
      simp only [comparisons, List.map_cons, head, tail]
      rw [Nat.add_right_comm]

/-- A condition is raised by writing it under higher numbers. -/
theorem raise_render (first : Nat) {condition : Condition}
    (plain : ∀ column ∈ condition.columns, Plain column) :
    raise amount (condition.render first).toList =
      (condition.render (first + amount)).toList := by
  cases condition with
  | equals column value =>
      exact raise_comparison amount (plain column (List.mem_singleton_self _)) " = " (by decide)
        first
  | contains column text =>
      exact raise_comparison amount (plain column (List.mem_singleton_self _)) " ILIKE "
        (by decide) first
  | oneOf column values =>
      have noMarks : Plain column := plain column (List.mem_singleton_self _)
      have numbers := raise_placeholders amount first values.length
      simp only [render, String.toList_append, List.append_assoc]
      rw [raise_append_separator _ (by decide), raise_plain amount noMarks,
        raise_append _ (by decide), raise_joined amount (by decide) numbers,
        raise_eq_self (unmarked_of_not_mem (by decide))]
  | anyContains columns text =>
      have noMarks : ∀ column ∈ columns, Plain column := plain
      have numbers := raise_comparisons amount first noMarks
      simp only [render, String.toList_append, List.append_assoc]
      rw [raise_append_of_not_mem (by decide), raise_append _ (by decide),
        raise_joined amount (by decide) numbers,
        raise_eq_self (unmarked_of_not_mem (by decide))]

theorem raise_renderFrom (first : Nat) {conditions : List Condition}
    (plain : ∀ condition ∈ conditions, ∀ column ∈ condition.columns, Plain column) :
    (renderFrom first conditions).map (fun part => raise amount part.toList) =
      (renderFrom (first + amount) conditions).map String.toList := by
  induction conditions generalizing first with
  | nil => rfl
  | cons condition rest ih =>
      have head := raise_render amount first (plain condition List.mem_cons_self)
      have tail := ih (first + condition.arguments.length) fun other member =>
        plain other (List.mem_cons_of_mem _ member)
      simp only [renderFrom, List.map_cons, head, tail]
      rw [Nat.add_right_comm]

theorem raised_joinFrom (first : Nat) {conditions : List Condition}
    (plain : ∀ condition ∈ conditions, ∀ column ∈ condition.columns, Plain column) :
    raised amount (joinFrom first conditions) = joinFrom (first + amount) conditions := by
  have parts := raise_renderFrom amount first plain
  rw [← String.toList_inj, toList_raised, joinFrom, joinFrom,
    raise_joined amount (by decide) parts]

end Condition

namespace Builder

open Condition

theorem plain_of_condition? {projection : Projection} {calls : List Refinement}
    (plain : ∀ field ∈ calls.flatMap Refinement.fields, Plain (projection.column field)) :
    ∀ condition ∈ calls.filterMap (condition? projection),
      ∀ column ∈ condition.columns, Plain column := by
  intro condition member column known
  obtain ⟨call, inCalls, added⟩ := List.mem_filterMap.mp member
  obtain ⟨field, inCall, rfl⟩ := columns_condition? added known
  exact plain field (List.mem_flatMap.mpr ⟨call, inCalls, inCall⟩)

theorem conditions_after (projection : Projection) (defaultSort : List SortField)
    (history : List Turn) :
    ((fresh projection defaultSort).after history).conditions =
      (callsOf history).filterMap (condition? projection) := by
  rw [after_eq_refineAll, conditions_refineAll]
  rfl

theorem conditionText_after_append (projection : Projection) (defaultSort : List SortField)
    (history : List Turn) {later : List Turn}
    (plain : ∀ field ∈ (callsOf later).flatMap Refinement.fields,
      Plain (projection.column field)) :
    ((fresh projection defaultSort).after (history ++ later)).conditionText =
      conjoined ((fresh projection defaultSort).after history).conditionText
        (raised ((fresh projection defaultSort).after history).arguments.length
          ((fresh projection defaultSort).after later).conditionText) := by
  have known := plain_of_condition? plain
  simp only [conditionText, arguments, conjunction_eq, conditions_after, callsOf_append,
    List.filterMap_append]
  rw [joinFrom_append, raised_joinFrom _ 1 known]

theorem arguments_after_append (projection : Projection) (defaultSort : List SortField)
    (history later : List Turn) :
    ((fresh projection defaultSort).after (history ++ later)).arguments =
      ((fresh projection defaultSort).after history).arguments ++
        ((fresh projection defaultSort).after later).arguments := by
  simp only [arguments, conditions_after, callsOf_append, List.filterMap_append,
    argumentsOf_append]

/-- What two histories make a builder write and bind is joined when one follows the other: the
placeholders of the second are raised by the number of values that the first has bound. One more
turn leaves the clause and the values in front of its own as they were. -/
theorem emits_append {projection : Projection} {defaultSort : List SortField}
    {history later : List Turn} {text text' : String} {values values' : List Value}
    (unmarked : ∀ name ∈ projection.texts ++ (callsOf later).flatMap Refinement.fields,
      Unmarked name.toList)
    (emits : ((fresh projection defaultSort).after history).Emits text values)
    (emits' : ((fresh projection defaultSort).after later).Emits text' values') :
    ((fresh projection defaultSort).after (history ++ later)).Emits
        (conjoined text (raised values.length text')) (values ++ values') ∧
      ∀ turn, ∃ longer more,
        ((fresh projection defaultSort).after (history ++ [turn])).Emits longer more ∧
          (clauseOf text).toList <+: (clauseOf longer).toList ∧ values <+: more := by
  obtain ⟨rfl, rfl⟩ := emits.eq
  obtain ⟨rfl, rfl⟩ := emits'.eq
  have texts : ∀ name ∈ projection.texts, Plain name := fun name member =>
    plain_of_unmarked (unmarked name (List.mem_append_left _ member))
  have columns : ∀ field ∈ (callsOf later).flatMap Refinement.fields,
      Plain (projection.column field) := fun field member =>
    Projection.plain_column texts
      (plain_of_unmarked (unmarked field (List.mem_append_right _ member)))
  constructor
  · rw [← conditionText_after_append projection defaultSort history columns,
      ← arguments_after_append]
    exact emits_conditionText _
  · intro turn
    refine ⟨_, _, emits_conditionText _, ?_⟩
    rw [after_concat, turn_eq_refineAll]
    exact prefix_refineAll _ turn.calls

def nineStates : List Turn :=
  [.refine (.whereIn "Status" (List.replicate 9 (.text "failed")))]

def searchedNights : List Turn :=
  [.apply (.runs (some "nightly") []), .refine (.whereSearch (some "$9") ["ID", "Result"])]

theorem emits_append_searchedNights :
    ((fresh Resource.runs.projection []).after (nineStates ++ searchedNights)).Emits
      ("r.status IN ($1, $2, $3, $4, $5, $6, $7, $8, $9) AND " ++
        "r.workflow_name = $10 AND (r.id ILIKE $11 OR r.result ILIKE $12)")
      (List.replicate 9 (.text "failed") ++
        [.text "nightly", .text "%$9%", .text "%$9%"]) := by
  have emits : ((fresh Resource.runs.projection []).after nineStates).Emits
      "r.status IN ($1, $2, $3, $4, $5, $6, $7, $8, $9)"
      (List.replicate 9 (.text "failed")) := emits_conditionText _
  have emits' : ((fresh Resource.runs.projection []).after searchedNights).Emits
      "r.workflow_name = $1 AND (r.id ILIKE $2 OR r.result ILIKE $3)"
      [.text "nightly", .text "%$9%", .text "%$9%"] := emits_conditionText _
  have joined := (emits_append (by decide) emits emits').1
  have text : conjoined "r.status IN ($1, $2, $3, $4, $5, $6, $7, $8, $9)"
      (raised 9 "r.workflow_name = $1 AND (r.id ILIKE $2 OR r.result ILIKE $3)") =
      "r.status IN ($1, $2, $3, $4, $5, $6, $7, $8, $9) AND " ++
        "r.workflow_name = $10 AND (r.id ILIKE $11 OR r.result ILIKE $12)" := by
    decide +kernel
  rw [← text]
  exact joined

end Builder

end PagedListing
