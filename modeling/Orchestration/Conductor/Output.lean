import Orchestration.Conductor.Status
import Orchestration.Spec.Rendering

/-!
The output of a workflow.
-/

namespace Orchestration.Conductor

variable [Engine]

/-- Merges the contexts of the last tasks into that of the first of them. They all begin with the
context of the workflow, which is not merged again. -/
def gatherTerminal (entries : List (Value × Node)) : List Entry → Conducting (List (Value × Node))
  | [] => return entries
  | e :: rest => do
    let indices := e.contexts.value
    if !indices.contains 0 then throw (.broken .value "list.remove(x): x not in list")
    let (contexts, found) := (← getState).contexts.gatherMore entries (indices.erase 0)
    modifyState fun s => { s with contexts := contexts }
    gatherTerminal (← ofExcept found) rest

def terminalContext : Conducting Value := do
  let s ← getState
  if !s.status.isCompleted then throw (.context "Workflow is not in completed status.")
  match s.terminalEntries.map (·.2) with
  | [] => return Value.empty
  | first :: rest =>
    let entries ← gatherTerminal (← gather first.contexts.value) rest
    return .map (Node.toEntries entries)

/-- The statuses that errors in the output do not change. -/
def keepsStatus : List Status := [.expired, .abandoned, .canceled]

def renderOutput : Conducting Unit := do
  let status := (← getState).status
  if status.isCompleted && !(← get).output.truthy then
    let context ← withState (← terminalContext)
    let rendered ← ofExcept ((← get).spec.renderOutput context)
    if !rendered.values.isEmpty then
      modify fun c => { c with output := .map (Node.toEntries rendered.values) }
    if !rendered.errors.isEmpty then
      logErrors rendered.errors .nothing
      if !keepsStatus.contains status then requestStatus .failed

def outputValue (c : Conductor) : Value := if c.output.truthy then c.output.copy else .null

def toFields (c : Conductor) : List (String × Value) :=
  [("contexts", c.state.contextsValue), ("routes", c.state.routesValue), ("sequence", c.state.sequenceValue),
   ("staged", c.state.stagedValue), ("status", c.state.status.toValue), ("tasks", c.state.tasksValue),
   ("reruns", c.state.rerunsValue), ("errors", .list c.errors), ("log", .list c.log), ("output", c.output)]

def resetOutput : Conducting Unit := modify fun c => { c with output := .null }

end Orchestration.Conductor
