import Orchestration.Workload.Conducting
import Orchestration.Workload.Events
import Orchestration.Workload.Expressions
import Orchestration.Workload.Refusals
import Orchestration.Workload.Rehearsing
import Orchestration.Workload.Structure
import Orchestration.Workload.Tools

/-!
Workloads: fixed uses of the engine, of any size.
-/

namespace Orchestration.Workload

def all : List (String × (Nat → Except Error Value)) :=
  [("conduct_sequential", sequential), ("conduct_parallel_join", parallelJoin), ("conduct_with_items", withItems),
   ("conduct_serialize_roundtrip", roundTrip), ("conduct_pause_cancel_retry", pauseCancelRetry),
   ("conduct_rerun", rerun), ("spec_inspect", inspections), ("compose_graph", graphs),
   ("expressions_evaluate", expressions), ("expression_functions", functions), ("rehearsal", rehearsals),
   ("utils", tools), ("exceptions_and_events", events),
   ("task_mapping_traversal", flows), ("workflow_state_queries", stateAnswers)]

/-- What a workload comes to. One that fails has said something before. -/
structure Run where
  result : Except Error Value
  out : Option (List Value)

/-- All that is refused, up to an attempt that fails. -/
def misuse : Run :=
  match refusals with
  | .ok out => ⟨lastAttempt, some out⟩
  | .error e => ⟨.error e, none⟩

def run? (name : String) (size : Nat) : Option Run :=
  if name == "error_paths" then some misuse
  else (all.lookup name).map fun work => ⟨work size, none⟩

end Orchestration.Workload
