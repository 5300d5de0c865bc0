import Orchestration.Conductor.Offer
import Orchestration.Graph.Cycle

/-!
How the host reports what has become of a task, and what follows from it.
-/

namespace Orchestration.Conductor

variable [Engine]

/-! ### Entries -/

/-- A part of a retry policy that may be an expression and has to come to a whole number. -/
def wholePart (task part : String) (retry context : Value) : Except Error Value :=
  match retry.field part with
  | .str text => do
    match ← Task.evaluate context (.str text) with
    | .int n => .ok (retry.setField part (.int n))
    | .bool b => .ok (retry.setField part (.bool b))
    | _ => .error (.refused .value ("The retry " ++ part ++ " for task \"" ++ task ++ "\" is not an integer."))
  | _ => .ok retry

def retryFor (task : String) (indices : List Nat) : Conducting (Option Value) := do
  let g ← graph
  if ← ofExcept (g.hasRetry task) then
    let retry := (← ofExcept (g.retry task)).copy.setField "tally" (.int 0)
    let context ← context indices
    let retry ← ofExcept (wholePart task "delay" retry context)
    return some (← ofExcept (wholePart task "count" retry context))
  else return none

def share {α : Type} (v : α) : Conducting (Shared α) := do
  let (shared, s) := (← getState).share v
  modifyState fun _ => s
  return shared

/-- What is held, or something of its own where nothing is held. -/
def heldOr {α : Type} (held : Shared (List α)) (own : List α) : Conducting (Shared (List α)) :=
  if held.value.isEmpty then share own else pure held

def shareRetry (retry : Option Value) : Conducting (Option (Shared Value)) :=
  match retry with
  | some retry => do return some (← share retry)
  | none => return none

def requireTask (task : String) : Conducting Unit := do
  if !(← graph).hasTask task then throw (.unknownTask task)

/-- Adds an entry for a task. What the entry holds may be held by what was staged for it. -/
def addEntry (task : String) (route : Nat) (contexts : Shared (List Nat))
    (prev : Shared (List (String × Nat))) :
    Conducting Nat := do
  requireTask task
  let contexts ← heldOr contexts [0]
  let prev ← heldOr prev []
  let retry ← shareRetry (← retryFor task contexts.value)
  modifyState (·.addEntry ⟨task, route, contexts, [], prev, [], retry, .missing, false⟩)
  return (← getState).sequence.length - 1

def addStagedEntry (task : String) (staged : Option Staged) : Conducting Nat :=
  match staged with
  | some t => addEntry task t.route t.contexts t.prev
  | none => throw (.broken .type "'NoneType' object is not subscriptable")

/-- The entry of a task that is known, or a new one. A command has a new one each time. -/
def knownEntry (task : String) (route : Nat) (staged : Option Staged) : Conducting Nat := do
  match (← getState).index? task route with
  | some i => if Command.isName task then addStagedEntry task staged else pure i
  | none => addStagedEntry task staged

/-- The entry that an event is about: the latest one, or a new one. A task that is started again
after it was completed has a new one. -/
def entryFor (task : String) (route : Nat) (e : Event) (staged : Option Staged) :
    Conducting Nat := do
  let index ← knownEntry task route staged
  let index := ((← getState).index? task route).getD index
  let completed := (((← getState).sequence[index]?).map (·.isCompleted)).getD false
  if completed && e.status.isStarting then
    let _ ← addStagedEntry task staged
    return ((← getState).index? task route).getD index
  else return index

def entryAt (index : Nat) : Conducting Entry := do
  match (← getState).sequence[index]? with
  | some e => return e
  | none => throw (.broken .index "list index out of range")

def modifyEntry (index : Nat) (f : Entry → Entry) : Conducting Unit :=
  modifyState (·.updateEntry index f)

/-! ### What an event does to a task -/

def noteItem (staged : Staged) (e : Event) : Conducting Unit :=
  match e.kind with
  | .item index _ => do
    let items ← ofExcept (State.itemsOf (some staged))
    let place ← ofExcept (State.itemIndex items index)
    modifyState (·.updateStaged staged.task staged.route fun t => { t with items := some (items.set place e.status) })
  | _ => return

/-- A task that is staged is taken out, or the item that is reported is noted. -/
def noteStaged (staged : Option Staged) (e : Event) : Conducting Unit :=
  match staged with
  | some t => do
    if e.status != .missing && t.items.isNone then modifyState (·.unstage t.task t.route)
    noteItem t e
  | none => return

def stageRetry (task : String) (route index : Nat) : Conducting Unit := do
  let entry ← entryAt index
  match entry.retry with
  | none => throw (.broken .key "'retry'")
  | some retry =>
    let tally ← ofExcept (Value.add (retry.value.field "tally") (.int 1))
    modifyState (·.changeRetry retry.mark (·.setField "tally" tally))
    modifyState (·.unstage task route)
    let contexts ← heldOr entry.contexts [0]
    modifyState (·.stage task route contexts entry.prev true (some { retry with value := retry.value.setField "tally" tally }))

/-- A task that is completed leaves staging. One with items that failed stays, so that it can be run
again. -/
def leaveStaging (task : String) (route : Nat) (hasItems : Bool) (status : Status) :
    Conducting Unit := do
  if hasItems && status.isAbended then
    if ((← getState).staged? task route).isNone then
      throw (.broken .type "'NoneType' object does not support item assignment")
    modifyState (·.updateStaged task route fun t => { t with completed := true })
  else modifyState (·.unstage task route)

/-- The result of a task. With items it is what the items have given so far. -/
def resultOf (hasItems : Bool) (e : Event) : Value :=
  if hasItems then
    let given := match e.kind with
      | .item _ accumulated => accumulated
      | _ => e.result
    if given.truthy then given else .list []
  else e.result

def completedContext (index : Nat) (result : Value) : Conducting Value := do
  let entry ← entryAt index
  let own ← context entry.contexts.value
  let current :=
    Value.fields [("id", .str entry.task), ("route", .int entry.route), ("result", result)]
  withState (← ofExcept (Context.setTask own current))

def missingKey (v : Value) (key : String) : Except Error Value :=
  match v.field? key with
  | some w => .ok w
  | none => .error (.broken .key ("'" ++ key ++ "'"))

def wantsRetry (entry : Entry) (context : Value) : Except Error Bool :=
  match entry.retry with
  | none => .ok false
  | some retry => do
    let count ← missingKey retry.value "count"
    let tally ← missingKey retry.value "tally"
    if ← Value.compares .greaterOrSame tally count then return false
    let condition ← missingKey retry.value "when"
    if entry.status.isAbended && condition.isNull then return true
    return (← Task.evaluate context condition).truthy

/-! ### Transitions -/

/-- The route on which a task goes on. A task that several others lead to opens a route for each
way, unless it is in a cycle. -/
def routeFor (edge : Edge) (route : Nat) : Conducting Nat := do
  let flow ← ofExcept ((← tasks).flow)
  let split ← ofExcept (flow.isSplit edge.target)
  if !split || (← graph).inCycle edge.target then return route
  match (← getState).routes[route]? with
  | none => throw (.broken .index "list index out of range")
  | some old =>
    let here := State.transitionKey edge.source edge.key
    if old.contains here then return route
    modifyState fun s => { s with routes := s.routes ++ [old ++ [here]] }
    return (← getState).routes.length - 1

def holds (edge : Edge) (context : Value) : Except Error Bool := do
  let criteria := edge.get "criteria"
  let criteria ← if criteria.truthy then Schema.itemsOf criteria else .ok []
  let found ← criteria.mapM (Task.evaluate context)
  .ok (found.all (·.truthy))

def withoutFirst (indices : List Nat) : Except Error (List Nat) :=
  if indices.contains 0 then .ok (indices.erase 0)
  else .error (.broken .value "list.remove(x): x not in list")

def stageNext (task : String) (edge : Edge) (index : Nat) (target : String) (route : Nat)
    (indices : List Nat) :
    Conducting Unit := do
  let back := State.transitionKey task edge.key
  match (← getState).staged? target route with
  | some t =>
    let more ← ofExcept (withoutFirst indices)
    modifyState (·.changeContexts t.contexts.mark (· ++ more))
    modifyState (·.changePrev t.prev.mark (putNamed · back index))
    modifyState (·.updateStaged target route fun t => { t with items := none, completed := false })
  | none =>
    let contexts ← share (if indices.isEmpty then [0] else indices)
    let prev ← share [(back, index)]
    modifyState (·.stage target route contexts prev false none)

/-- Adds the context that a transition publishes, and gives the contexts of the next task. -/
def publish (index : Nat) (key : String) (published : List (Value × Node)) :
    Conducting (List Nat) := do
  let indices := (← entryAt index).contexts.value
  if published.isEmpty then return indices
  let new := (← getState).contexts.items.length
  modifyState fun s => { s with contexts := s.contexts.publish published }
  modifyEntry index fun e => { e with out := [(key, new)] }
  return indices ++ [new]

/-- Prepares the task to which a transition leads, and gives its route and whether it can start. -/
def prepare (task : String) (route index : Nat) (edge : Edge) (published : List (Value × Node)) :
    Conducting (Nat × Bool) := do
  let indices ← publish index (State.transitionKey edge.target edge.key) published
  let nextRoute ← routeFor edge route
  stageNext task edge index edge.target nextRoute indices
  let ready := (← inbound edge.target route) == .satisfied
  modifyState (·.updateStaged edge.target nextRoute fun t => { t with ready := ready })
  return (nextRoute, ready)

/-- What has come of the transitions of a task: the commands to be carried out, and the tasks that
can start. -/
structure Followers where
  commands : List (Command × Nat)
  tasks : List (String × Nat)

def goAlong (task : String) (route index : Nat) (described : Task) (context : Value) (edge : Edge) :
    Conducting Followers := do
  let key := State.transitionKey edge.target edge.key
  let about : About := ⟨.str task, .int route, .str key⟩
  let nothing : Followers := ⟨[], []⟩
  match holds edge context with
  | .error e =>
    logError e about
    requestStatus .failed
    return nothing
  | .ok taken =>
    modifyEntry index fun e => { e with next := putNamed e.next key taken }
    if !taken then return nothing
    let _ ← ofExcept ((← graph).task edge.target)
    let target := edge.target
    let number ← ofExcept (missingKey (.map edge.attributes) "ref")
    let out ← ofExcept (described.finish (.str target) number context.copy)
    if !out.errors.isEmpty then
      logErrors out.errors about
      requestStatus .failed
      return nothing
    let (nextRoute, ready) ← prepare task route index edge out.published
    match Command.ofName? target with
    | some command => return ⟨[(command, nextRoute)], []⟩
    | none => return ⟨[], if ready then [(target, nextRoute)] else []⟩

/-- Goes along some transitions, one after the other. What can start is started even if the workflow
fails by one of them. -/
def goAll (task : String) (route index : Nat) (described : Task) (context : Value)
    (edges : List Edge) :
    Conducting (List (Command × Nat)) := do
  let found ← edges.mapM (goAlong task route index described context)
  let commands := found.flatMap (·.commands)
  if commands.any (·.1 == .fail) then
    (found.flatMap (·.tasks)).forM fun (task, route) =>
      modifyState (·.updateStaged task route fun t => { t with runOnFail := true })
  return commands

def goOn (task : String) (route index : Nat) (described : Task) (context : Value) :
    Conducting (List (Command × Nat)) := do
  let edges := (← graph).nextTransitions task
  if edges.isEmpty then modifyEntry index fun e => { e with terminal := true }
  goAll task route index described context edges

/-! ### Reports -/

def failedMessage : String := "Execution failed. See result for details."

def requireStatus (entry : Entry) : Except Error Status :=
  if entry.status = .missing then .error (.broken .key "'status'") else .ok entry.status

/-- The entry that an event is about, after the event has been noted in staging and in the log. -/
def receive (task : String) (route : Nat) (e : Event) : Conducting Nat := do
  let staged := (← getState).staged? task route
  if staged.isNone && ((← getState).latest? task route).isNone then throw (.notStaged task)
  let index ← entryFor task route e staged
  noteStaged staged e
  if e.status == .failed then
    logEntry (.str "error") (.str failedMessage) ⟨.str task, .null, .null⟩ e.result .null
  return index

/-- What follows from a task that is completed: commands, or nothing if the task is to be tried
again. The transitions are only gone along when the status is new. -/
def complete (task : String) (route index : Nat) (spec : Spec) (e : Event) (old new : Status) :
    Conducting (Option (List (Command × Nat))) := do
  leaveStaging task route spec.hasItems new
  let context ← completedContext index (resultOf spec.hasItems e)
  if (← getState).status.isActive && (← ofExcept (wantsRetry (← entryAt index) context)) then
    return none
  else if new != old then
    return some (← goOn task route index (← ofExcept (Task.ofSpec spec)) context)
  else return some []

def advance (task : String) (route index : Nat) (spec : Spec) (e : Event) :
    Conducting (Option (List (Command × Nat))) := do
  let old := (← entryAt index).status.orUnset
  tryState (·.advance index e)
  let new := (← entryAt index).status.orUnset
  if new == .retrying then stageRetry task route index
  if new.isCompleted then complete task route index spec e old new else return some []

/-- Takes an event about a task. Retries and commands are taken in turn; `depth` bounds how deep. -/
def updateWithin : Nat → String → Nat → Event → Conducting Nat
  | 0, _, _, _ => throw (.broken .recursion "maximum recursion depth exceeded")
  | depth + 1, task, route, e => do
    requireTask task
    let spec ← taskSpec task
    let index ← receive task route e
    match ← advance task route index spec e with
    | none => updateWithin depth task route (.command .retry)
    | some commands =>
      follow (.task (some task) (some route) (← ofExcept (requireStatus (← entryAt index))))
      commands.forM fun (command, route) => do
        let _ ← updateWithin depth command.name route (.command command)
      if (← getState).status.isCompleted then modifyEntry index fun e => { e with terminal := true }
      return index

/-- How deep retries and commands can follow from one event. -/
def updateDepth : Nat := 4

def update (task : String) (route : Nat) (e : Event) : Conducting Nat :=
  updateWithin updateDepth task route e

end Orchestration.Conductor
