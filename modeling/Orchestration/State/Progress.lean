import Orchestration.Machine.Task
import Orchestration.State.Basic

/-!
How the entries of a workflow follow events.
-/

namespace Orchestration.State

/-- The place of an item. A number below zero counts from the end. -/
def itemIndex (items : List Status) (index : Value) : Except Error Nat :=
  match index.asInt? with
  | some n =>
    let place := if n < 0 then n + items.length else n
    if 0 ≤ place && place < items.length then .ok place.toNat
    else .error (.broken .index "list assignment index out of range")
  | none =>
    .error (.broken .type ("list indices must be integers or slices, not " ++ index.typeName))

def itemsOf (staged : Option Staged) : Except Error (List Status) :=
  match staged with
  | none => .error (.broken .type "'NoneType' object is not subscriptable")
  | some t =>
    match t.items with
    | some items => .ok items
    | none => .error (.broken .key "'items'")

def itemSignal (s : State) (task : String) (route : Nat) (e : Event) (index : Value) :
    Except Error Signal :=
  if Machine.Task.itemStatuses.contains e.status then do
    let items ← itemsOf (s.staged? task route)
    let place ← itemIndex items index
    .ok (e.signal.within (Machine.Task.itemScope (items.eraseIdx place)))
  else .ok e.signal

def requestSignal (s : State) (task : String) (route : Nat) (e : Event) : Signal :=
  match (s.staged? task route).bind (·.items) with
  | some items =>
    if e.status.isStop then e.signal.within (Machine.Task.stopScope items) else e.signal
  | none => e.signal

def requireKnown (e : Event) (signals : List Signal) : Except Error Unit :=
  if signals.contains e.signal then .ok () else .error (.wrongEvent e.signal.name)

def signalFor (s : State) (task : String) (route : Nat) (e : Event) : Except Error Signal := do
  match e.kind with
  | .workflow =>
    requireKnown e Signal.workflowSignals
    .ok (s.requestSignal task route e)
  | .item index _ =>
    requireKnown e (Signal.actionSignals ++ Signal.commandSignals)
    s.itemSignal task route e index
  | .action | .command _ =>
    requireKnown e (Signal.actionSignals ++ Signal.commandSignals)
    .ok e.signal
  | .task .. | .plain => .error e.wrongType

def statusAfter (s : State) (task : String) (route : Nat) (status : Status) (e : Event) :
    Except Error (Option Status) := do
  Machine.Task.step status (← s.signalFor task route e)

def advance (s : State) (index : Nat) (e : Event) : Except Error State := do
  match s.sequence[index]? with
  | none => .ok s
  | some entry =>
    match ← s.statusAfter entry.task entry.route entry.status e with
    | some new => .ok (s.updateEntry index fun entry => { entry with status := new })
    | none => .ok s

/-- A state in which one task is staged, if it has items. -/
def ofItems (task : String) (items : Option (List Status)) : State :=
  let (contexts, s) := State.empty.share [0]
  let (prev, s) := s.share []
  match items with
  | some items => (s.stage task 0 contexts prev true none).updateStaged task 0 fun t => { t with items := some items }
  | none => s

end Orchestration.State
