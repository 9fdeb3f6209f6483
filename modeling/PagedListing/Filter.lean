import PagedListing.Filter.ImageFormat
import PagedListing.Filter.RunStatus
import PagedListing.Number.Optional
import PagedListing.Params
import PagedListing.Query.Builder
import PagedListing.Resource
import PagedListing.Uuid

set_option autoImplicit false

/-!
# Filters

What a listing may be narrowed to, for each resource. Query values that cannot be used
are dropped, so reading a filter never fails.
-/

namespace PagedListing

inductive Filter where
  | agents (name : Option String)
  | providers (name : Option String)
  | documents (name contentType : Option String)
  | images (documentId : Option Uuid) (format : Option ImageFormat) (pageNumber : Option Int)
  | profiles (workflowName : Option String)
  | runs (workflowName : Option String) (statuses : List String)
deriving DecidableEq, Repr

namespace Filter

def resource : Filter → Resource
  | .agents _ => .agents
  | .providers _ => .providers
  | .documents _ _ => .documents
  | .images _ _ _ => .images
  | .profiles _ => .profiles
  | .runs _ _ => .runs

def ofParams (resource : Resource) (params : Params) : Filter :=
  match resource with
  | .agents => .agents (params.text? "name")
  | .providers => .providers (params.text? "name")
  | .documents => .documents (params.text? "name") (params.text? "content_type")
  | .images =>
      .images ((params.text? "document_id").bind Uuid.parse?)
        ((params.text? "format").bind ImageFormat.parse?)
        (Number.optionalInt (params.get? "page_number"))
  | .profiles => .profiles (params.text? "workflow_name")
  | .runs =>
      .runs (params.text? "workflow_name")
        (match params.text? "status" with
          | some text => (RunStatus.parse text).map RunStatus.name
          | none => [])

def textValue : Option String → Value
  | some text => .text text
  | none => .null

/-- The calls that narrow a listing to the criteria, one for each criterion. -/
def refinements : Filter → List Refinement
  | .agents name => [.whereContains "Name" name]
  | .providers name => [.whereContains "Name" name]
  | .documents name contentType =>
      [.whereContains "Name" name, .whereContains "ContentType" contentType]
  | .images documentId format pageNumber =>
      [.whereEquals "DocumentID" (textValue (documentId.map Uuid.canonical)),
        .whereEquals "Format" (textValue (format.map ImageFormat.name)),
        .whereEquals "PageNumber" (match pageNumber with
          | some number => .int number
          | none => .null)]
  | .profiles workflowName => [.whereEquals "WorkflowName" (textValue workflowName)]
  | .runs workflowName statuses =>
      [.whereEquals "WorkflowName" (textValue workflowName),
        .whereIn "Status" (statuses.map .text)]

@[simp]
theorem resource_ofParams (resource : Resource) (params : Params) :
    (ofParams resource params).resource = resource := by
  cases resource <;> rfl

end Filter

end PagedListing
