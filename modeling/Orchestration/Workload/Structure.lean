import Orchestration.Flow.Cycle
import Orchestration.Graph.Persistence
import Orchestration.Json.Writer
import Orchestration.Spec.Composition
import Orchestration.Spec.Container
import Orchestration.Spec.Inspection
import Orchestration.Workload.Conducting

/-!
Questions about workflows, their graphs and their states.
-/

namespace Orchestration.Workload

/-! ### Inspections -/

def schemaStart (s : Spec) : Except Error Value := do
  .ok (.str (String.ofList ((Json.write Json.oneLine (← s.kind.schema true true)).toList.take 50)))

def flowOf (s : Spec) : Except Error Flow := do (← s.taskMapping).flow

/-- What an inspection finds, whether the tasks go round, and how the schema starts. -/
def inspectOne (definition : Value) : Except Error (List Value) := do
  let s ← Catalog.native.instantiate definition
  .ok [Spec.inspectionValue (← s.inspect .null), .bool (← (← flowOf s).hasCycles), ← schemaStart s]

def refusal (definition : Value) : Except Error Value := do
  match (← Catalog.native.instantiate definition).inspectOrRefuse .null with
  | .ok () => .ok .null
  | .error e => .ok (.str e.message)

def inspections (n : Nat) : Except Error Value := do
  let s ← Catalog.native.instantiate (chain n)
  let first := Spec.inspectionValue (← s.inspect .null)
  .ok (.list ([first, ← refusal (faulty (max 3 (n / 2)))] ++ (← inspectOne (chain n)) ++ (← inspectOne split)))

/-! ### Graphs -/

def vertexAnswers (g : Graph) (v : Vertex) : Except Error (List Value) := do
  .ok [.map (← g.task v.id), .bool (← g.hasBarrier v.id), .bool (← g.hasRetry v.id),
    .int (g.nextTransitions v.id).length, .int (g.prevTransitions v.id).length]

/-- What becomes of a question about a transition that is not there. -/
def noTransition (g : Graph) : Value :=
  match g.transition "nosuch" "nosuch" .null [] with
  | .error (.unknownTransition ..) => .str "no-trans"
  | _ => .null

def graphAnswers (definition : Value) : Except Error (List Value) := do
  let g ← (← Catalog.native.instantiate definition).compose
  let g ← Graph.deserialize g.serialize
  let counts := Value.list [.int g.roots.length, .int g.leaves.length, .bool (!g.vertices.isEmpty),
    .int g.barriers.length]
  let perTask ← g.vertices.mapM (vertexAnswers g)
  let retries ← g.vertices.mapM fun v => do .ok (v.id, ← g.retry v.id)
  .ok ([counts] ++ perTask.flatten ++ [.fields retries, noTransition g])

def graphs (n : Nat) : Except Error Value := do
  let all ← [chain n, fan (max 3 (n / 3)), split, retries].mapM graphAnswers
  let mock ← (← Catalog.mock.instantiate (.fields [("mock", .fields [("version", .float 1.0)])])).compose
  .ok (.list (all.flatten ++ [.bool mock.vertices.isEmpty, mock.serialize]))

/-! ### Tasks -/

def linkTuple (l : Link) : Value := .tuple [.str l.task, l.condition, .int l.branch]

def stepAnswers (flow : Flow) (name : String) : Except Error (List Value) := do
  .ok [.list ((← flow.nextTasks name).map linkTuple), .list ((flow.prevTasks name).map linkTuple),
    .bool (← flow.isJoin name), .bool (← flow.isSplit name), .bool (← flow.inCycle name)]

def findings (tasks : Spec) : Except Error (List Value) := do
  let place := some Place.top
  let found ← [tasks.detectReserved place, tasks.detectStart place, tasks.detectUndefined place,
    tasks.detectUnreachable place, tasks.detectActionless place, tasks.inspectSemantics place].mapM id
  .ok (found.map Spec.findingsValue)

def flowAnswers (definition : Value) : Except Error (List Value) := do
  let tasks ← (← Catalog.native.instantiate definition).taskMapping
  let flow ← tasks.flow
  let starts := Value.list (flow.startTasks.map fun name => .tuple [.str name, .null, .null])
  let perTask ← flow.steps.mapM fun step => stepAnswers flow step.name
  .ok ([starts] ++ perTask.flatten ++ [.bool (← flow.hasCycles)] ++ (← findings tasks))

def flows (n : Nat) : Except Error Value := do
  .ok (.list (← [chain n, fan (max 2 (n / 2)), split].mapM flowAnswers).flatten)

/-! ### States -/

def entryAnswers (name : String) : Conducting (List Value) := do
  let s ← Conductor.getState
  let count (route : Option Nat) (latestOnly : Bool) : Value :=
    .int (s.entriesOf (some name) route latestOnly).length
  let entry := s.latest? name 0
  return [.bool (s.index? name 0).isSome, .str ((entry.map (·.status.text)).getD ""), count none true, count none false,
    count (some 0) true, .int (s.downstream name 0).length, .str ((entry.map (·.task)).getD ""),
    .int ((s.index? name 0).getD 0), ← Conductor.initialContext name 0, ← Conductor.workflowContext,
    ((s.staged? name 0).map Staged.toValue).getD .null, .int s.tasks.length]

def stateAnswers (n : Nat) : Except Error Value :=
  conducting (chain n) do
    drive host longest
    let perTask ← (List.range n).mapM fun i => entryAnswers (taskName i)
    let s ← Conductor.getState
    let joins ← Conductor.unreachableJoins
    let first := some (taskName 0)
    return .list (perTask.flatten ++
      [.int (s.entriesOf none none true).length, .int (s.entriesWith [.succeeded] true).length,
       .int s.sequence.length, .bool s.hasActive, .bool s.hasPausing, .bool s.hasPaused, .bool s.hasCanceling,
       .bool s.hasCanceled, .bool s.hasReady, .int s.terminalEntries.length, s.stagedValue,
       .list (joins.map Staged.toValue), ← Conductor.terminalContext, .bool (← Conductor.hasNext first (some 0)),
       .bool (← Conductor.hasBarrierNext first (some 0)),
       .list ((← Conductor.nextTasks).map fun o => .fields o.toFields)])

end Orchestration.Workload
