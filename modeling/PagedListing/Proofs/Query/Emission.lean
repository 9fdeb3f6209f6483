import PagedListing.Query.Builder

set_option autoImplicit false

/-!
# Histories of a builder and the queries written from them

What a call binds and which names it mentions can be told from the call alone. These
readings do not look at the conditions that a builder gathers; the lemmas below compare the
two.
-/

namespace PagedListing

def Condition.columns : Condition → List String
  | .equals column _ | .contains column _ | .oneOf column _ => [column]
  | .anyContains columns _ => columns

def Projection.texts (projection : Projection) : List String :=
  projection.schema :: projection.tableName :: projection.shortName ::
    projection.columns.map Prod.snd

theorem Projection.mem_columns_of_lookup {projection : Projection} {name column : String}
    (found : projection.columns.lookup name = some column) :
    (name, column) ∈ projection.columns := by
  obtain ⟨before, after, split, -⟩ := List.lookup_eq_some_iff.mp found
  rw [split]
  exact List.mem_append_right before List.mem_cons_self

namespace Refinement

def fields : Refinement → List String
  | .whereEquals field _ | .whereContains field _ | .whereIn field _ => [field]
  | .whereSearch _ fields => fields
  | .orderBy field _ => if field = "" then [] else [field]
  | .orderByFields fields => fields.map SortField.field

/-- The values that a call binds: the value itself, or the text between two percent signs,
once for each field of a search. -/
def bound : Refinement → List Value
  | .whereEquals _ .null => []
  | .whereEquals _ value => [value]
  | .whereContains _ (some text) => if text = "" then [] else [.text ("%" ++ text ++ "%")]
  | .whereIn _ values => values
  | .whereSearch (some text) fields =>
      if text = "" then [] else fields.map fun _ => .text ("%" ++ text ++ "%")
  | _ => []

end Refinement

namespace Builder

def fresh (projection : Projection) (defaultSort : List SortField) : Builder :=
  { projection, defaultSort }

inductive Emission where
  | count
  | page (page size : Int)
  | all
  | single (field : String) (value : Value)

namespace Emission

def Printable : Emission → Prop
  | .page number size =>
      Number.isWritable size = true ∧ Number.isWritable ((number - 1) * size) = true
  | _ => True

def fields : Emission → List String
  | .single field _ => [field]
  | _ => []

def Gathers : Emission → Prop
  | .single _ _ => False
  | _ => True

def bound (calls : List Refinement) : Emission → List Value
  | .single _ value => [value]
  | _ => calls.flatMap Refinement.bound

end Emission

/-- The query that is written, if its page bounds can be. -/
def emit? (builder : Builder) : Emission → Option Query
  | .count => some builder.count
  | .page page size => builder.page? page size
  | .all => some builder.all
  | .single field value => some (builder.single field value)

/-- The texts that may stand in a query after some calls, apart from its numbers. -/
def involvedTexts (projection : Projection) (defaultSort : List SortField)
    (calls : List Refinement) (emission : Emission) : List String :=
  projection.texts ++ defaultSort.map SortField.field ++
    calls.flatMap Refinement.fields ++ emission.fields

/-- The text that a call adds to the conditions. It is numbered on from the arguments
that the builder has when the call is made. -/
def clause? (builder : Builder) (call : Refinement) : Option String :=
  (condition? builder.projection call).map (Condition.render (builder.arguments.length + 1))

theorem sql_count (builder : Builder) : builder.count.sql =
    "SELECT COUNT(*) FROM " ++ builder.projection.table ++ builder.whereClause := rfl

theorem sql_all (builder : Builder) :
    builder.all.sql = builder.selection ++ builder.whereClause ++ builder.orderClause := rfl

def window (page size : Int) : String :=
  " LIMIT " ++ Number.numeral size ++ " OFFSET " ++ Number.numeral ((page - 1) * size)

theorem page?_of_printable (builder : Builder) {page size : Int}
    (printable : (Emission.page page size).Printable) :
    builder.page? page size = some ⟨builder.all.sql ++ window page size, builder.arguments⟩ := by
  obtain ⟨limit, offset⟩ := printable
  simp [page?, Number.numeral?, limit, offset, window, String.append_assoc]

theorem printable_of_page? {builder : Builder} {page size : Int} {query : Query}
    (written : builder.page? page size = some query) : (Emission.page page size).Printable := by
  cases limit : Number.isWritable size with
  | false => simp [page?, Number.numeral?, limit] at written
  | true =>
      cases offset : Number.isWritable ((page - 1) * size) with
      | false => simp [page?, Number.numeral?, limit, offset] at written
      | true => exact ⟨limit, offset⟩

theorem page?_eq_none_of_not_printable (builder : Builder) {page size : Int}
    (unprintable : ¬(Emission.page page size).Printable) : builder.page? page size = none :=
  Option.eq_none_iff_forall_ne_some.mpr fun _ written =>
    unprintable (printable_of_page? written)

@[simp] theorem defaultSort_refineAll (builder : Builder) (calls : List Refinement) :
    (builder.refineAll calls).defaultSort = builder.defaultSort := by
  induction calls generalizing builder with
  | nil => rfl
  | cons call rest ih => exact ih (builder.refine call)

theorem arguments_condition? (projection : Projection) (call : Refinement) :
    Condition.argumentsOf (condition? projection call).toList = call.bound := by
  cases call with
  | whereEquals field value =>
      cases value <;> rfl
  | whereContains field text =>
      cases text with
      | none => rfl
      | some text =>
          by_cases empty : text = "" <;>
            simp [condition?, Refinement.bound, empty, Condition.argumentsOf,
              Condition.arguments, Condition.pattern]
  | whereIn field values =>
      cases values <;> simp [condition?, Refinement.bound, Condition.argumentsOf,
        Condition.arguments]
  | whereSearch text fields =>
      cases text with
      | none => rfl
      | some text =>
          by_cases empty : text = ""
          · simp [condition?, Refinement.bound, empty, Condition.argumentsOf]
          · cases fields with
            | nil => simp [condition?, Refinement.bound, Condition.argumentsOf]
            | cons field rest =>
                simp [condition?, Refinement.bound, empty, Condition.argumentsOf,
                  Condition.arguments, Condition.pattern, Function.comp_def]
  | orderBy field descending => rfl
  | orderByFields fields => rfl

theorem arguments_refine (builder : Builder) (call : Refinement) :
    (builder.refine call).arguments = builder.arguments ++ call.bound := by
  simp only [arguments, refine, Condition.argumentsOf_append, arguments_condition?]

theorem arguments_refineAll (builder : Builder) (calls : List Refinement) :
    (builder.refineAll calls).arguments =
      builder.arguments ++ calls.flatMap Refinement.bound := by
  induction calls generalizing builder with
  | nil => simp [refineAll]
  | cons call rest ih =>
      have step := ih (builder.refine call)
      simp only [refineAll, List.foldl_cons] at step ⊢
      rw [step, arguments_refine, List.flatMap_cons, List.append_assoc]

theorem refineAll_cons (builder : Builder) (call : Refinement) (rest : List Refinement) :
    builder.refineAll (call :: rest) = (builder.refine call).refineAll rest := rfl

@[simp] theorem projection_fresh (projection : Projection) (defaultSort : List SortField) :
    (fresh projection defaultSort).projection = projection := rfl

theorem conditions_refineAll_split {start : Builder} (before after : List Refinement)
    {call : Refinement} {condition : Condition}
    (added : condition? start.projection call = some condition) :
    (start.refineAll (before ++ call :: after)).conditions =
      (start.refineAll before).conditions ++
        condition :: after.filterMap (condition? start.projection) := by
  simp [conditions_refineAll, added]

theorem columns_condition? {projection : Projection} {call : Refinement}
    {condition : Condition} (added : condition? projection call = some condition)
    {column : String} (member : column ∈ condition.columns) :
    ∃ field ∈ call.fields, column = projection.column field := by
  unfold condition? at added
  split at added
  · cases added
  · cases added
    exact ⟨_, List.mem_singleton_self _, List.mem_singleton.mp member⟩
  · split at added
    · cases added
    · cases added
      exact ⟨_, List.mem_singleton_self _, List.mem_singleton.mp member⟩
  · split at added
    · cases added
    · cases added
      exact ⟨_, List.mem_singleton_self _, List.mem_singleton.mp member⟩
  · split at added
    · cases added
    · cases added
      obtain ⟨field, known, equal⟩ := List.mem_map.mp member
      exact ⟨field, known, equal.symm⟩
  · cases added

structure Mentions (property : String → Prop) (builder : Builder) : Prop where
  conditions : ∀ condition ∈ builder.conditions, ∀ column ∈ condition.columns, property column
  defaultSort : ∀ sort ∈ builder.defaultSort, property (builder.projection.column sort.field)
  explicitSort : ∀ sort ∈ builder.explicitSort, property (builder.projection.column sort.field)

namespace Mentions

variable {property : String → Prop} {builder : Builder}

theorem refine (mentions : Mentions property builder) {call : Refinement}
    (fields : ∀ field ∈ call.fields, property (builder.projection.column field)) :
    Mentions property (builder.refine call) where
  conditions := by
    intro condition member column known
    rcases List.mem_append.mp member with gathered | added
    · exact mentions.conditions condition gathered column known
    · obtain ⟨field, inCall, rfl⟩ := columns_condition? (Option.mem_toList.mp added) known
      exact fields field inCall
  defaultSort := mentions.defaultSort
  explicitSort := by
    intro sort member
    cases call with
    | orderBy field descending =>
        by_cases empty : field = ""
        · simp [Builder.refine, ordering?, empty] at member
        · have same : sort = ⟨field, descending⟩ := by
            simpa [Builder.refine, ordering?, empty] using member
          subst same
          exact fields field (by simp [Refinement.fields, empty])
    | orderByFields sorts => exact fields sort.field (List.mem_map_of_mem member)
    | whereEquals | whereContains | whereIn | whereSearch =>
        exact mentions.explicitSort sort member

theorem refineAll (mentions : Mentions property builder) {calls : List Refinement}
    (fields : ∀ field ∈ calls.flatMap Refinement.fields,
      property (builder.projection.column field)) :
    Mentions property (builder.refineAll calls) := by
  induction calls generalizing builder with
  | nil => exact mentions
  | cons call rest ih =>
      simp only [List.flatMap_cons, List.mem_append] at fields
      rw [refineAll_cons]
      exact ih (mentions.refine fun field member => fields field (.inl member))
        fun field member => fields field (.inr member)

theorem fresh {projection : Projection} {defaultSort : List SortField}
    (fields : ∀ sort ∈ defaultSort, property (projection.column sort.field)) :
    Mentions property (Builder.fresh projection defaultSort) where
  conditions := fun _ member => absurd member List.not_mem_nil
  defaultSort := fields
  explicitSort := fun _ member => absurd member List.not_mem_nil

theorem of_fields {projection : Projection} {defaultSort : List SortField}
    {calls : List Refinement}
    (fields : ∀ field ∈ defaultSort.map SortField.field ++ calls.flatMap Refinement.fields,
      property (projection.column field)) :
    Mentions property ((Builder.fresh projection defaultSort).refineAll calls) := by
  have start : Mentions property (Builder.fresh projection defaultSort) := .fresh fun sort member =>
    fields sort.field (List.mem_append_left _ (List.mem_map_of_mem member))
  exact start.refineAll fun field member => fields field (List.mem_append_right _ member)

theorem sort (mentions : Mentions property builder) :
    ∀ sort ∈ builder.sort, property (builder.projection.column sort.field) := by
  unfold Builder.sort
  split
  · exact mentions.defaultSort
  · exact mentions.explicitSort

end Mentions

/-!
## The clause of one condition within the conditions of all
-/

def lead (before : List Condition) : String :=
  if before.isEmpty then " WHERE " else " WHERE " ++ Condition.conjunction before ++ " AND "

def trail (first : Nat) (after : List Condition) : String :=
  if after.isEmpty then "" else " AND " ++ " AND ".intercalate (Condition.renderFrom first after)

theorem renderFrom_eq_nil_iff {first : Nat} {conditions : List Condition} :
    Condition.renderFrom first conditions = [] ↔ conditions = [] := by
  cases conditions <;> simp [Condition.renderFrom]

theorem intercalate_renderFrom_cons (first : Nat) (condition : Condition)
    (after : List Condition) :
    " AND ".intercalate (Condition.renderFrom first (condition :: after)) =
      condition.render first ++ trail (first + condition.arguments.length) after := by
  cases after with
  | nil => simp [Condition.renderFrom, trail]
  | cons next later =>
      simp [Condition.renderFrom, trail, String.intercalate_cons_cons, String.append_assoc]

theorem whereClause_split {builder : Builder} {before after : List Condition}
    {condition : Condition} (gathered : builder.conditions = before ++ condition :: after) :
    builder.whereClause = lead before ++
      (condition.render ((Condition.argumentsOf before).length + 1) ++
        trail ((Condition.argumentsOf before).length + 1 + condition.arguments.length) after) := by
  have nonempty : (before ++ condition :: after).isEmpty = false := by simp
  rw [whereClause, gathered, nonempty, Condition.conjunction, Condition.renderFrom_append,
    Nat.add_comm 1]
  cases before with
  | nil =>
      have alone := intercalate_renderFrom_cons 1 condition after
      simpa [lead, Condition.argumentsOf, Condition.renderFrom] using alone
  | cons head rest =>
      rw [String.intercalate_append_of_ne_nil (by simp [renderFrom_eq_nil_iff])
        (by simp [renderFrom_eq_nil_iff]), intercalate_renderFrom_cons _ condition after]
      simp only [lead, Condition.conjunction, List.isEmpty_cons, Bool.false_eq_true, if_false,
        String.append_assoc]

end Builder

end PagedListing
