import Orchestration.Context.Current
import Orchestration.Machine.Workflow
import Orchestration.Spec.Composition
import Orchestration.State.Persistence
import Orchestration.State.Progress
import Orchestration.Task.Basic

/-!
Conductors.

A conductor holds a workflow and its state. What it does may fail, and then what was done before
stays done.
-/

namespace Orchestration

structure Conductor where
  spec : Spec
  input : Value
  /-- The context in which the workflow was called. -/
  parent : Value
  graph? : Option Graph
  state : State
  log : List Value
  errors : List Value
  output : Value

abbrev Conducting := ExceptT Error (StateM Conductor)

namespace Conductor

def ofExcept {α : Type} (x : Except Error α) : Conducting α :=
  match x with
  | .ok a => pure a
  | .error e => throw e

def getState : Conducting State := do return (← get).state

def modifyState (f : State → State) : Conducting Unit :=
  modify fun c => { c with state := f c.state }

def tryState (f : State → Except Error State) : Conducting Unit := do
  let s ← ofExcept (f (← getState))
  modifyState fun _ => s

def graph : Conducting Graph := do
  match (← get).graph? with
  | some g => return g
  | none =>
    let g ← ofExcept (← get).spec.compose
    modify fun c => { c with graph? := some g }
    return g

def tasks : Conducting Spec := do ofExcept (← get).spec.taskMapping

def taskSpec (name : String) : Conducting Spec := do ofExcept ((← get).spec.taskSpec name)

/-! ### Logs -/

/-- What an entry of a log is about. What is not known is left out. -/
structure About where
  task : Value
  route : Value
  transition : Value

def About.nothing : About := ⟨.null, .null, .null⟩

def About.ofTask (task : String) (route : Nat) : About := ⟨.str task, .int route, .null⟩

def logTypes : List String := ["info", "warn", "error"]

def logValue (type message : Value) (about : About) (result data : Value) : Value :=
  let more := [("task_id", about.task), ("route", about.route), ("task_transition_id", about.transition),
    ("result", result), ("data", data)]
  .fields ([("type", type), ("message", message)] ++ more.filter fun (_, v) => !v.isNull)

/-- Adds an entry to the log, or to the errors, unless it is there. -/
def logEntry (type message : Value) (about : About) (result data : Value) : Conducting Unit := do
  if !logTypes.any fun t => type == .str t then
    throw (.logEntry ("The log entry type \"" ++ type.text ++ "\" is not valid."))
  let entry := logValue type message about result data
  let add (list : List Value) : List Value :=
    if list.any (· == entry) then list else list ++ [entry]
  if type == .str "error" then modify fun c => { c with errors := add c.errors }
  else modify fun c => { c with log := add c.log }

def logError (e : Error) (about : About) : Conducting Unit :=
  logEntry (.str "error") (.str e.line) about .null .null

def logErrors (errors : List Error) (about : About) : Conducting Unit :=
  errors.forM (logError · about)

/-! ### Contexts -/

def gather (indices : List Nat) : Conducting (List (Value × Node)) := do
  let (contexts, found) := (← getState).contexts.gather indices
  modifyState fun s => { s with contexts := contexts }
  ofExcept found

def context (indices : List Nat) : Conducting Value := do
  return .map (Node.toEntries (← gather indices))

/-- Adds the state of the workflow to a context, for the functions that ask for it. -/
def withState (context : Value) : Conducting Value := do
  ofExcept (Value.merge true context (.fields [("__state", (← getState).serialize)]))

def noContext (task : String) : Error :=
  .refused .value ("Unable to determine context for task \"" ++ task ++ "\".")

def initialIndices (task : String) (route : Nat) : Conducting (List Nat) := do
  let s ← getState
  match s.staged? task route with
  | some t => return t.contexts.value
  | none =>
    match s.latest? task route with
    | some e => return e.contexts.value
    | none => throw (noContext task)

def initialContext (task : String) (route : Nat) : Conducting Value := do
  context (← initialIndices task route)

def workflowContext : Conducting Value := do
  return (← ofExcept ((← getState).contexts.get 0)).toValue.copy

def transitionContexts (task : String) (route : Nat) : Conducting Value := do
  match (← getState).latest? task route with
  | none => throw (.notStaged task)
  | some e =>
    let g ← graph
    let taken := (g.nextTransitions task).filter fun edge =>
      (e.next.lookup (State.transitionKey edge.target edge.key)).getD false
    let found ← taken.mapM fun edge => do
      return (Value.str (State.transitionKey edge.target edge.key), ← initialContext edge.target route)
    return .map (Entries.ofList found)

end Conductor

end Orchestration
