import Orchestration.Error
import Orchestration.Event.Signal

/-!
Events: what hosts report and what the engine tells itself.
-/

namespace Orchestration

inductive EventKind where
  | workflow
  | task (id : Option String) (route : Option Nat)
  | action
  /-- The action of one item of a task, with the results of all items so far. -/
  | item (index accumulated : Value)
  | command (c : Command)
  | plain

structure Event where
  kind : EventKind
  signal : Signal
  status : Status
  result : Value
  context : Value

namespace Status

def toValue (s : Status) : Value := if s = .missing then .null else .str s.text

def read (v : Value) : Except Error Status :=
  match v with
  | .null => .ok .missing
  | .str s =>
    match ofText? s with
    | some status => .ok status
    | none => .error (.wrongStatus s)
  | other => .error (.wrongStatus other.text)

end Status

namespace Event

def workflow (status : Status) : Event :=
  ⟨.workflow, .about .workflow status .plain, status, .null, .null⟩

def task (id : Option String) (route : Option Nat) (status : Status) : Event :=
  ⟨.task id route, .about .task status .plain, status, .null, .null⟩

def action (status : Status) (result context : Value) : Event :=
  ⟨.action, .about .action status .plain, status, result, context⟩

def item (index : Value) (status : Status) (result accumulated : Value) : Event :=
  ⟨.item index accumulated, .about .action status .plain, status, result, .null⟩

/-- An event of no particular kind, under any name. -/
def plain (name : String) (status : Status) (result context : Value) : Event :=
  ⟨.plain, .ofName name, status, result, context⟩

def commandStatus : Command → Status
  | .continue | .noop => .succeeded
  | .fail => .failed
  | .retry => .retrying

def command (c : Command) : Event := ⟨.command c, .command c, commandStatus c, .null, .null⟩

def named (e : Event) (name : String) : Event := { e with signal := .ofName name }

def typeName (e : Event) : String :=
  match e.kind with
  | .workflow => "WorkflowExecutionEvent"
  | .task .. => "TaskExecutionEvent"
  | .action => "ActionExecutionEvent"
  | .item .. => "TaskItemActionExecutionEvent"
  | .command .continue => "TaskContinueEvent"
  | .command .noop => "TaskNoopEvent"
  | .command .fail => "TaskFailEvent"
  | .command .retry => "TaskRetryEvent"
  | .plain => "ExecutionEvent"

def wrongType (e : Event) : Error :=
  .wrongEventType ("<class 'orquesta.events." ++ e.typeName ++ "'>") e.signal.name

def notEvent : Error := .refused .type "Event is not type of ExecutionEvent."

/-- A plain value is no event. -/
def ofValue (_ : Value) : Except Error Event := .error notEvent

def toValue (e : Event) : Value :=
  let own := match e.kind with
    | .task id route =>
      [("task_id", (id.map Value.str).getD .null), ("route", (route.map fun r => Value.int r).getD .null)]
    | .item index accumulated => [("item_id", index), ("accumulated_result", accumulated)]
    | _ => []
  .fields
    ([("name", .str e.signal.name), ("status", e.status.toValue), ("result", e.result),
      ("context", e.context)] ++ own)

end Event

end Orchestration
