import PagedListing.Filter
import PagedListing.Proofs.Filter.Statuses
import PagedListing.Proofs.Number.Numeral
import PagedListing.Proofs.Params.Agreement
import PagedListing.Proofs.Query.NormalForm
import PagedListing.Proofs.Uuid.Spelling

set_option autoImplicit false

/-!
# Filters in canonical form

A filter that has been read is in canonical form: written back as query values it is read as it
is. Each of its criteria narrows a listing by one condition, whatever its value.
-/

namespace PagedListing

inductive Demand where
  | contains (text : String)
  | equals (text : String)
  | number (value : Int)
  | among (texts : List String)

namespace Demand

@[simp] def text : Demand → String
  | .contains text | .equals text => text
  | .number value => Number.numeral value
  | .among texts => ",".intercalate texts

def condition (column : String) : Demand → Condition
  | .contains text => .contains column text
  | .equals text => .equals column (.text text)
  | .number value => .equals column (.int value)
  | .among texts => .oneOf column (texts.map .text)

def arguments : Demand → List Value
  | .contains text => [.text ("%" ++ text ++ "%")]
  | .equals text => [.text text]
  | .number value => [.int value]
  | .among texts => texts.map .text

theorem arguments_condition (column : String) (demand : Demand) :
    (demand.condition column).arguments = demand.arguments := by
  cases demand <;> rfl

end Demand

structure Criterion where
  parameter : String
  field : String
  demand : Demand

namespace Criterion

def pair (criterion : Criterion) : String × String :=
  (criterion.parameter, criterion.demand.text)

def condition (projection : Projection) (criterion : Criterion) : Condition :=
  criterion.demand.condition (projection.column criterion.field)

def ofDemand? (parameter field : String) (demand : Option Demand) : List Criterion :=
  (demand.map (Criterion.mk parameter field)).toList

@[simp] theorem get?_ofDemand? (parameter field : String) (demand : Option Demand) (name : String) :
    Params.get? ((ofDemand? parameter field demand).map pair) name =
      if name = parameter then demand.map Demand.text else none := by
  cases demand with
  | none => rw [Option.map_none, ite_self]; rfl
  | some demand => exact Params.get?_singleton (parameter, demand.text) name

@[simp] theorem get?_ofDemand?_append (parameter field : String) (demand : Option Demand)
    (rest : Params) (name : String) :
    Params.get? ((ofDemand? parameter field demand).map pair ++ rest) name =
      (rest.get? name).or (if name = parameter then demand.map Demand.text else none) := by
  rw [Params.get?_append, get?_ofDemand?]

@[simp] theorem map_condition_ofDemand? (projection : Projection) (parameter field : String)
    (demand : Option Demand) :
    (ofDemand? parameter field demand).map (condition projection) =
      (demand.map (Demand.condition (projection.column field))).toList := by
  cases demand <;> rfl

end Criterion

namespace Filter

open Criterion

/-- The criteria of a filter, one for each field that is present, in the order in which they are
applied. -/
def criteria : Filter → List Criterion
  | .agents name | .providers name => ofDemand? "name" "Name" (name.map .contains)
  | .documents name contentType =>
      ofDemand? "name" "Name" (name.map .contains) ++
        ofDemand? "content_type" "ContentType" (contentType.map .contains)
  | .images documentId format pageNumber =>
      ofDemand? "document_id" "DocumentID" (documentId.map fun id => .equals id.canonical) ++
        (ofDemand? "format" "Format" (format.map fun format => .equals format.name) ++
          ofDemand? "page_number" "PageNumber" (pageNumber.map .number))
  | .profiles workflowName =>
      ofDemand? "workflow_name" "WorkflowName" (workflowName.map .equals)
  | .runs workflowName statuses =>
      ofDemand? "workflow_name" "WorkflowName" (workflowName.map .equals) ++
        ofDemand? "status" "Status" (if statuses = [] then none else some (.among statuses))

def toParams (filter : Filter) : Params := filter.criteria.map pair

/-- Filters whose texts are not empty, whose number can be written and whose states are all
different. -/
inductive IsCanonical : Filter → Prop where
  | agents {name : Option String} : name ≠ some "" → IsCanonical (.agents name)
  | providers {name : Option String} : name ≠ some "" → IsCanonical (.providers name)
  | documents {name contentType : Option String} :
      name ≠ some "" → contentType ≠ some "" → IsCanonical (.documents name contentType)
  | images {documentId : Option Uuid} {format : Option ImageFormat} {pageNumber : Option Int} :
      (∀ number ∈ pageNumber, Number.isWritable number = true) →
      IsCanonical (.images documentId format pageNumber)
  | profiles {workflowName : Option String} :
      workflowName ≠ some "" → IsCanonical (.profiles workflowName)
  | runs {workflowName : Option String} {statuses : List RunStatus} :
      workflowName ≠ some "" → statuses.Nodup →
      IsCanonical (.runs workflowName (statuses.map RunStatus.name))

end Filter

theorem ImageFormat.parse?_name (format : ImageFormat) : parse? format.name = some format := by
  cases format <;> decide +kernel

theorem ImageFormat.name_ne_empty (format : ImageFormat) : format.name ≠ "" := by
  cases format <;> decide

namespace Filter

/-- Whatever is read is in canonical form. -/
theorem isCanonical_ofParams (resource : Resource) (params : Params) :
    (ofParams resource params).IsCanonical := by
  have given := params.text?_ne_empty
  cases resource with
  | agents => exact .agents (given "name")
  | providers => exact .providers (given "name")
  | documents => exact .documents (given "name") (given "content_type")
  | images => exact .images fun _ read => Number.isWritable_of_optionalInt read
  | profiles => exact .profiles (given "workflow_name")
  | runs =>
      rw [ofParams]
      cases params.text? "status" with
      | none => exact .runs (given "workflow_name") List.nodup_nil
      | some text => exact .runs (given "workflow_name") (RunStatus.nodup_parse text)

theorem bind_map_eq_self {α : Type} {write : α → String} {read : String → Option α}
    (inverse : ∀ value, read (write value) = some value) (value : Option α) :
    (value.map write).bind read = value := by
  cases value with
  | none => rfl
  | some value => exact inverse value

theorem states_of_get? {params : Params} {statuses : List RunStatus} (distinct : statuses.Nodup)
    (given : params.get? "status" =
      if statuses = [] then none else some (RunStatus.joined statuses)) :
    (match params.text? "status" with
      | some text => (RunStatus.parse text).map RunStatus.name
      | none => []) = statuses.map RunStatus.name := by
  by_cases empty : statuses = []
  · rw [Params.text?_of_get? given (by simp [empty]), if_pos empty, empty]
    rfl
  · have joined := RunStatus.joined_ne_empty distinct empty
    rw [Params.text?_of_get? given (by simp [empty, joined]), if_neg empty]
    exact congrArg _ (RunStatus.parse_joined distinct empty)

/-- A filter in canonical form is read back from the query values it is written as. -/
theorem ofParams_toParams {filter : Filter} (canonical : filter.IsCanonical) :
    ofParams filter.resource filter.toParams = filter := by
  cases canonical with
  | @agents name given =>
      have said : (toParams (.agents name)).get? "name" = name := by
        simp [toParams, criteria, Function.comp_def]
      exact congrArg agents (Params.text?_of_get? said given)
  | @providers name given =>
      have said : (toParams (.providers name)).get? "name" = name := by
        simp [toParams, criteria, Function.comp_def]
      exact congrArg providers (Params.text?_of_get? said given)
  | @documents name contentType nameGiven typeGiven =>
      have names : (toParams (.documents name contentType)).get? "name" = name := by
        simp [toParams, criteria, Function.comp_def]
      have types : (toParams (.documents name contentType)).get? "content_type" = contentType := by
        simp [toParams, criteria, Function.comp_def]
      exact congrArg₂ documents (Params.text?_of_get? names nameGiven)
        (Params.text?_of_get? types typeGiven)
  | @images documentId format pageNumber writable =>
      have ids : (toParams (.images documentId format pageNumber)).get? "document_id" =
          documentId.map Uuid.canonical := by simp [toParams, criteria, Function.comp_def]
      have formats : (toParams (.images documentId format pageNumber)).get? "format" =
          format.map ImageFormat.name := by simp [toParams, criteria, Function.comp_def]
      have numbers : (toParams (.images documentId format pageNumber)).get? "page_number" =
          pageNumber.map Number.numeral := by simp [toParams, criteria, Function.comp_def]
      rw [resource, ofParams, Params.text?_of_get? ids (by simp [Uuid.canonical_ne_empty]),
        Params.text?_of_get? formats (by simp [ImageFormat.name_ne_empty]), numbers]
      have id := bind_map_eq_self Uuid.parse?_canonical documentId
      have kind := bind_map_eq_self ImageFormat.parse?_name format
      rw [id, kind, Number.optionalInt_map_numeral writable]
  | @profiles workflowName given =>
      have said : (toParams (.profiles workflowName)).get? "workflow_name" = workflowName := by
        simp [toParams, criteria, Function.comp_def]
      exact congrArg profiles (Params.text?_of_get? said given)
  | @runs workflowName statuses given distinct =>
      have names : (toParams (.runs workflowName (statuses.map RunStatus.name))).get?
          "workflow_name" = workflowName := by simp [toParams, criteria, Function.comp_def]
      have states : (toParams (.runs workflowName (statuses.map RunStatus.name))).get? "status" =
          if statuses = [] then none else some (RunStatus.joined statuses) := by
        by_cases empty : statuses = [] <;> simp [toParams, criteria, empty, RunStatus.joined]
      exact congrArg₂ runs (Params.text?_of_get? names given) (states_of_get? distinct states)

/-- The filters in canonical form are those that are read. -/
theorem isCanonical_iff {filter : Filter} :
    filter.IsCanonical ↔ ∃ params, ofParams filter.resource params = filter := by
  constructor
  · exact fun canonical => ⟨filter.toParams, ofParams_toParams canonical⟩
  · rintro ⟨params, read⟩
    rw [← read]
    exact isCanonical_ofParams filter.resource params

/-!
## Criteria as conditions
-/

theorem condition?_contains (projection : Projection) (field : String) {text : Option String}
    (given : text ≠ some "") :
    Builder.condition? projection (.whereContains field text) =
      (text.map Demand.contains).map (Demand.condition (projection.column field)) := by
  cases text with
  | none => rfl
  | some text =>
      have nonempty : text ≠ "" := fun empty => given (congrArg some empty)
      exact if_neg nonempty

theorem condition?_equals (projection : Projection) (field : String) (text : Option String) :
    Builder.condition? projection (.whereEquals field (textValue text)) =
      (text.map Demand.equals).map (Demand.condition (projection.column field)) := by
  cases text <;> rfl

theorem condition?_among (projection : Projection) (field : String) (texts : List String) :
    Builder.condition? projection (.whereIn field (texts.map .text)) =
      (if texts = [] then none else some (Demand.among texts)).map
        (Demand.condition (projection.column field)) := by
  cases texts <;> rfl

/-- Every criterion is applied, and nothing else is. -/
theorem conditions_refinements {filter : Filter} (canonical : filter.IsCanonical)
    (projection : Projection) :
    filter.refinements.filterMap (Builder.condition? projection) =
      filter.criteria.map (Criterion.condition projection) := by
  rw [List.filterMap_eq_flatMap_toList]
  cases canonical with
  | agents given | providers given =>
      simp [refinements, criteria, condition?_contains projection _ given]
  | documents nameGiven typeGiven =>
      simp [refinements, criteria, condition?_contains projection _ nameGiven,
        condition?_contains projection _ typeGiven]
  | @images documentId format pageNumber writable =>
      have absent : Builder.condition? projection (.whereEquals "PageNumber" .null) = none := rfl
      have present (number : Int) :
          Builder.condition? projection (.whereEquals "PageNumber" (.int number)) =
            some (.equals (projection.column "PageNumber") (.int number)) := rfl
      cases pageNumber <;>
        simp [refinements, criteria, condition?_equals, absent, present, Demand.condition,
          Function.comp_def]
  | profiles given => simp [refinements, criteria, condition?_equals]
  | @runs workflowName statuses given distinct =>
      have states := condition?_among projection "Status" (statuses.map RunStatus.name)
      rw [List.map_map] at states
      simp [refinements, criteria, condition?_equals, states]

theorem ordering?_refinements (filter : Filter) :
    ∀ call ∈ filter.refinements, Builder.ordering? call = none := by
  cases filter <;> simp [refinements, Builder.ordering?]

theorem refineAll_refinements {filter : Filter} (canonical : filter.IsCanonical)
    (builder : Builder) :
    builder.refineAll filter.refinements = { builder with
      conditions := builder.conditions ++
        filter.criteria.map (Criterion.condition builder.projection) } := by
  rw [builder.refineAll_of_ordering?_eq_none filter.ordering?_refinements,
    conditions_refinements canonical]

theorem arguments_refinements {filter : Filter} (canonical : filter.IsCanonical)
    (builder : Builder) :
    (builder.refineAll filter.refinements).arguments =
      builder.arguments ++ filter.criteria.flatMap fun criterion => criterion.demand.arguments := by
  rw [refineAll_refinements canonical]
  simp only [Builder.arguments, Condition.argumentsOf_append]
  rw [Condition.argumentsOf, Condition.argumentsOf, List.flatMap_map]
  simp only [Criterion.condition, Demand.arguments_condition]

/-- Reading gives a filter that is read back from what it is written as. It narrows a listing by
one condition for each of its criteria, in their order, and binds their values. -/
theorem ofParams_canonical (resource : Resource) (params : Params) :
    let filter := ofParams resource params
    ofParams resource filter.toParams = filter ∧
      ∀ builder : Builder,
        builder.refineAll filter.refinements = { builder with
          conditions := builder.conditions ++
            filter.criteria.map (Criterion.condition builder.projection) } ∧
        (builder.refineAll filter.refinements).arguments =
          builder.arguments ++
            filter.criteria.flatMap fun criterion => criterion.demand.arguments := by
  have canonical := isCanonical_ofParams resource params
  refine ⟨?_, fun builder =>
    ⟨refineAll_refinements canonical builder, arguments_refinements canonical builder⟩⟩
  have read := ofParams_toParams canonical
  rwa [resource_ofParams] at read

/-- Zeros are values like any other. -/
example :
    (ofParams .images [("document_id", "{00000000-0000-0000-0000-000000000000}"),
        ("format", " JPEG"), ("page_number", "-0_0")]).toParams =
      [("document_id", "00000000-0000-0000-0000-000000000000"), ("format", "jpg"),
        ("page_number", "0")] := by decide +kernel

end Filter

end PagedListing
