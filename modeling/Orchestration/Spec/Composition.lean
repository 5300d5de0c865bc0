import Orchestration.Graph.Composition
import Orchestration.Registry
import Orchestration.Spec.Flow

/-!
The graph of a workflow.

A composer makes graphs of the workflows of its own catalog. A mock has no tasks.
-/

namespace Orchestration.Spec

def fullName (catalog : Catalog) : String :=
  match catalog with
  | .mock => "orquesta.specs.mock.models.WorkflowSpec"
  | _ => "orquesta.specs.native.v1.models.WorkflowSpec"

def wrongCatalog (s : Spec) : Error :=
  .refused .type ("Unsupported spec type \"<class '" ++ fullName s.kind.catalog ++ "'>\".")

def composeWith (composer : Catalog) (workflow : Spec) : Except Error Graph := do
  if workflow.kind.catalog != composer then throw workflow.wrongCatalog
  match composer with
  | .native => do
    match ← workflow.property "tasks" with
    | .spec tasks => (← tasks.flow).compose
    | other => throw (noMember other.raw "get_start_tasks")
  | _ => .ok Graph.empty

def composerFor (name : Value) (workflow : Spec) : Except Error Catalog :=
  match name with
  | .str name =>
    match Catalog.ofName? name with
    | some composer => .ok composer
    | none => do
      let _ ← Registry.find "orquesta.composers" name
      .ok workflow.kind.catalog
  | _ => .ok workflow.kind.catalog

def compose (workflow : Spec) : Except Error Graph := composeWith workflow.kind.catalog workflow

end Orchestration.Spec
