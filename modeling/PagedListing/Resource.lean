import PagedListing.Projection
import PagedListing.SortField

set_option autoImplicit false

/-!
# Resources

The six kinds of things that are listed, and the three tables of rows that belong to one
of them: what their columns are called and how they are ordered unless asked otherwise.
-/

namespace PagedListing

inductive Resource where
  | agents
  | providers
  | documents
  | images
  | profiles
  | runs
deriving DecidableEq, Repr

namespace Resource

def name : Resource → String
  | .agents => "agents"
  | .providers => "providers"
  | .documents => "documents"
  | .images => "images"
  | .profiles => "profiles"
  | .runs => "runs"

def singular : Resource → String
  | .agents => "agent"
  | .providers => "provider"
  | .documents => "document"
  | .images => "image"
  | .profiles => "profile"
  | .runs => "run"

def missing (resource : Resource) : String := resource.singular ++ " not found"

def shortName : Resource → String
  | .agents => "a"
  | .providers => "p"
  | .documents => "d"
  | .images => "i"
  | .profiles => "p"
  | .runs => "r"

def columns : Resource → List (String × String)
  | .agents | .providers =>
      [("id", "ID"), ("name", "Name"), ("config", "Config"), ("created_at", "CreatedAt"),
        ("updated_at", "UpdatedAt")]
  | .documents =>
      [("id", "ID"), ("name", "Name"), ("filename", "Filename"),
        ("content_type", "ContentType"), ("size_bytes", "SizeBytes"),
        ("page_count", "PageCount"), ("storage_key", "StorageKey"),
        ("created_at", "CreatedAt"), ("updated_at", "UpdatedAt")]
  | .images =>
      [("id", "ID"), ("document_id", "DocumentID"), ("page_number", "PageNumber"),
        ("format", "Format"), ("dpi", "DPI"), ("quality", "Quality"),
        ("brightness", "Brightness"), ("contrast", "Contrast"),
        ("saturation", "Saturation"), ("rotation", "Rotation"),
        ("background", "Background"), ("storage_key", "StorageKey"),
        ("size_bytes", "SizeBytes"), ("created_at", "CreatedAt")]
  | .profiles =>
      [("id", "ID"), ("workflow_name", "WorkflowName"), ("name", "Name"),
        ("description", "Description"), ("created_at", "CreatedAt"),
        ("updated_at", "UpdatedAt")]
  | .runs =>
      [("id", "ID"), ("workflow_name", "WorkflowName"), ("status", "Status"),
        ("params", "Params"), ("result", "Result"), ("error_message", "ErrorMessage"),
        ("started_at", "StartedAt"), ("completed_at", "CompletedAt"),
        ("created_at", "CreatedAt"), ("updated_at", "UpdatedAt")]

def schema : String := "public"

def projection (resource : Resource) : Projection :=
  Projection.ofColumns schema resource.name resource.shortName resource.columns

/-- Named things are ordered by name, the others with the newest first. -/
def defaultSort : Resource → List SortField
  | .agents | .providers | .profiles => [⟨"Name", false⟩]
  | .documents | .images | .runs => [⟨"CreatedAt", true⟩]

def searchFields : Resource → List String
  | .agents | .providers | .profiles => ["Name"]
  | .documents => ["Name", "Filename"]
  | .images | .runs => []

def idField : String := "ID"

end Resource

/-- Tables whose rows belong to one profile or to one run. -/
inductive ChildTable where
  | profileStages
  | runStages
  | runDecisions
deriving DecidableEq, Repr

namespace ChildTable

def projection : ChildTable → Projection
  | .profileStages =>
      Projection.ofColumns Resource.schema "profile_stages" "ps"
        [("profile_id", "ProfileID"), ("stage_name", "StageName"), ("agent_id", "AgentID"),
          ("system_prompt", "SystemPrompt"), ("options", "Options")]
  | .runStages =>
      Projection.ofColumns Resource.schema "stages" "s"
        [("id", "ID"), ("run_id", "RunID"), ("node_name", "NodeName"),
          ("iteration", "Iteration"), ("status", "Status"),
          ("input_snapshot", "InputSnapshot"), ("output_snapshot", "OutputSnapshot"),
          ("duration_ms", "DurationMs"), ("error_message", "ErrorMessage"),
          ("created_at", "CreatedAt")]
  | .runDecisions =>
      Projection.ofColumns Resource.schema "decisions" "d"
        [("id", "ID"), ("run_id", "RunID"), ("from_node", "FromNode"),
          ("to_node", "ToNode"), ("predicate_name", "PredicateName"),
          ("predicate_result", "PredicateResult"), ("reason", "Reason"),
          ("created_at", "CreatedAt")]

def ownerField : ChildTable → String
  | .profileStages => "ProfileID"
  | .runStages | .runDecisions => "RunID"

/-- Stages of a profile are ordered by name, the rows of a run as they came about. -/
def defaultSort : ChildTable → List SortField
  | .profileStages => [⟨"StageName", false⟩]
  | .runStages | .runDecisions => [⟨"CreatedAt", false⟩]

end ChildTable

end PagedListing
