import PagedListing.Filter
import PagedListing.Proofs.Query.Emission

set_option autoImplicit false

/-!
# What a builder writes after a history

A history is all that is done with one builder, whole filters and the queries written on the way
included. The text of the conditions stands in every query but the lookup of a single row, and
one more call only adds to its end.
-/

namespace PagedListing

namespace Condition

def joinFrom (first : Nat) (conditions : List Condition) : String :=
  " AND ".intercalate (renderFrom first conditions)

theorem conjunction_eq (conditions : List Condition) :
    conjunction conditions = joinFrom 1 conditions := rfl

theorem render_ne_empty (first : Nat) (condition : Condition) : condition.render first ≠ "" := by
  cases condition <;> simp [render, String.append_eq_empty_iff]

theorem joinFrom_eq_empty_iff {first : Nat} {conditions : List Condition} :
    joinFrom first conditions = "" ↔ conditions = [] := by
  constructor
  · intro empty
    cases conditions with
    | nil => rfl
    | cons condition rest =>
        rw [joinFrom, Builder.intercalate_renderFrom_cons, String.append_eq_empty_iff] at empty
        exact absurd empty.1 (render_ne_empty first condition)
  · rintro rfl
    rfl

/-- Two condition texts, both of which must hold. An empty one does not count. -/
def conjoined (text other : String) : String :=
  if text = "" then other else if other = "" then text else text ++ " AND " ++ other

theorem joinFrom_append (first : Nat) (before after : List Condition) :
    joinFrom first (before ++ after) =
      conjoined (joinFrom first before)
        (joinFrom (first + (argumentsOf before).length) after) := by
  unfold conjoined
  split
  case isTrue empty =>
      rw [joinFrom_eq_empty_iff.mp empty]
      rfl
  case isFalse some =>
      split
      case isTrue empty => rw [joinFrom_eq_empty_iff.mp empty, List.append_nil]
      case isFalse others =>
          rw [joinFrom_eq_empty_iff] at some others
          rw [joinFrom, renderFrom_append, String.intercalate_append_of_ne_nil
            (by rwa [Ne, Builder.renderFrom_eq_nil_iff])
            (by rwa [Ne, Builder.renderFrom_eq_nil_iff])]
          rfl

end Condition

namespace Builder

open Condition

inductive Turn where
  /-- A single call that narrows or reorders. -/
  | refine (call : Refinement)
  /-- All the calls of a filter. -/
  | apply (filter : Filter)
  /-- A query that is written from what has been gathered. -/
  | emit (emission : Emission)

def Turn.calls : Turn → List Refinement
  | .refine call => [call]
  | .apply filter => filter.refinements
  | .emit _ => []

def turn (builder : Builder) : Turn → Builder
  | .refine call => builder.refine call
  | .apply filter => builder.refineAll filter.refinements
  | .emit _ => builder

def after (builder : Builder) (history : List Turn) : Builder := history.foldl turn builder

def callsOf (history : List Turn) : List Refinement := history.flatMap Turn.calls

theorem turn_eq_refineAll (builder : Builder) (turn : Turn) :
    builder.turn turn = builder.refineAll turn.calls := by
  cases turn <;> rfl

theorem refineAll_append (builder : Builder) (calls later : List Refinement) :
    builder.refineAll (calls ++ later) = (builder.refineAll calls).refineAll later :=
  List.foldl_append

/-- Of a history nothing but its calls matters to what is gathered. -/
theorem after_eq_refineAll (builder : Builder) (history : List Turn) :
    builder.after history = builder.refineAll (callsOf history) := by
  induction history generalizing builder with
  | nil => rfl
  | cons turn rest ih =>
      have first : builder.after (turn :: rest) = (builder.turn turn).after rest := rfl
      rw [first, ih, turn_eq_refineAll, ← refineAll_append]
      rfl

theorem after_concat (builder : Builder) (history : List Turn) (turn : Turn) :
    builder.after (history ++ [turn]) = (builder.after history).turn turn :=
  List.foldl_append

theorem callsOf_append (history later : List Turn) :
    callsOf (history ++ later) = callsOf history ++ callsOf later :=
  List.flatMap_append

/-!
## The text of the conditions
-/

def conditionText (builder : Builder) : String := conjunction builder.conditions

/-- A condition text as a clause. The empty text is none. -/
def clauseOf (text : String) : String := if text = "" then "" else " WHERE " ++ text

theorem whereClause_eq_clauseOf (builder : Builder) :
    builder.whereClause = clauseOf builder.conditionText := by
  have none : builder.conditionText = "" ↔ builder.conditions = [] := joinFrom_eq_empty_iff
  simp only [whereClause, clauseOf, none, List.isEmpty_iff]
  rfl

theorem clauseOf_injective {text other : String} (same : clauseOf text = clauseOf other) :
    text = other := by
  unfold clauseOf at same
  by_cases empty : text = ""
  · by_cases empty' : other = ""
    · rw [empty, empty']
    · simp [empty, empty', String.append_eq_empty_iff] at same
  · by_cases empty' : other = ""
    · simp [empty, empty', String.append_eq_empty_iff] at same
    · rw [if_neg empty, if_neg empty'] at same
      exact String.append_right_inj _ |>.mp same

/-- A builder writes a condition text into the queries that have its conditions, and binds some
values in each of them. -/
structure Emits (builder : Builder) (text : String) (values : List Value) : Prop where
  count : builder.count =
    ⟨"SELECT COUNT(*) FROM " ++ builder.projection.table ++ clauseOf text, values⟩
  all : builder.all = ⟨builder.selection ++ clauseOf text ++ builder.orderClause, values⟩
  page : ∀ {number size : Int}, (Emission.page number size).Printable →
    builder.page? number size =
      some ⟨builder.selection ++ clauseOf text ++ builder.orderClause ++ window number size,
        values⟩

theorem emits_conditionText (builder : Builder) :
    builder.Emits builder.conditionText builder.arguments where
  count := congrArg (Query.mk · builder.arguments)
    (by rw [whereClause_eq_clauseOf])
  all := congrArg (Query.mk · builder.arguments) (by rw [whereClause_eq_clauseOf])
  page := by
    intro number size printable
    rw [page?_of_printable builder printable, sql_all, whereClause_eq_clauseOf]

/-- What a builder writes and binds is determined by what it has gathered. -/
theorem Emits.eq {builder : Builder} {text : String} {values : List Value}
    (emits : builder.Emits text values) :
    text = builder.conditionText ∧ values = builder.arguments := by
  have counted := emits.count.symm.trans builder.emits_conditionText.count
  obtain ⟨texts, values⟩ := Query.mk.inj counted
  exact ⟨clauseOf_injective (String.append_right_inj _ |>.mp texts), values⟩

/-- The text of a call comes last, numbered on from the values that are bound already. -/
theorem conditionText_refine (builder : Builder) (call : Refinement) :
    (builder.refine call).conditionText =
      conjoined builder.conditionText ((builder.clause? call).getD "") := by
  have appended : (builder.refine call).conditions =
      builder.conditions ++ (condition? builder.projection call).toList := rfl
  rw [conditionText, appended, conjunction_eq, joinFrom_append, conditionText, conjunction_eq,
    Nat.add_comm 1, clause?]
  cases condition? builder.projection call <;> rfl

theorem prefix_clauseOf_conjoined (text other : String) :
    (clauseOf text).toList <+: (clauseOf (conjoined text other)).toList := by
  unfold conjoined
  by_cases empty : text = ""
  · rw [empty]
    exact List.nil_prefix
  · rw [if_neg empty]
    split
    · exact List.prefix_refl _
    · have longer : text ++ " AND " ++ other ≠ "" := by
        simp [String.append_eq_empty_iff]
      have split : (" WHERE " ++ (text ++ " AND " ++ other)).toList =
          (" WHERE " ++ text).toList ++ (" AND " ++ other).toList := by
        rw [← String.toList_append]
        simp only [String.append_assoc]
      rw [clauseOf, if_neg empty, clauseOf, if_neg longer, split]
      exact List.prefix_append _ _

/-- What a builder has written before some calls is still there behind them. -/
theorem prefix_refineAll (builder : Builder) (calls : List Refinement) :
    (clauseOf builder.conditionText).toList <+:
        (clauseOf (builder.refineAll calls).conditionText).toList ∧
      builder.arguments <+: (builder.refineAll calls).arguments := by
  induction calls generalizing builder with
  | nil => exact ⟨List.prefix_refl _, List.prefix_refl _⟩
  | cons call rest ih =>
      obtain ⟨text, values⟩ := ih (builder.refine call)
      rw [conditionText_refine] at text
      rw [arguments_refine] at values
      exact ⟨(prefix_clauseOf_conjoined _ _).trans text, (List.prefix_append _ _).trans values⟩

end Builder

end PagedListing
