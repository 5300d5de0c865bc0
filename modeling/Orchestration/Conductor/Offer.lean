import Orchestration.Conductor.Status
import Orchestration.Task.Rendering

/-!
Offers: the tasks that the host is to carry out next.
-/

namespace Orchestration

variable [Engine]

/-- A task with the actions to be carried out for it. -/
structure Offer where
  task : String
  route : Nat
  context : Value
  spec : Spec
  actions : List Action
  delay : Option Value
  /-- The number of items, and how many of them may be under way at a time. -/
  items : Option (Nat × Value)

namespace Offer

/-- An offer as a value. The state of the workflow is not shown. -/
def toFields (o : Offer) : List (String × Value) :=
  [("id", .str o.task), ("route", .int o.route), ("ctx", o.context.eraseField "__state"),
   ("actions", .list (o.actions.map Action.toValue))] ++
  (o.delay.map fun d => ("delay", d)).toList ++
  (match o.items with
   | some (count, concurrency) => [("items_count", .int count), ("concurrency", concurrency)]
   | none => [])

end Offer

namespace Conductor

/-- The context in which a task is rendered: its own, or that of the workflow if it has none yet. -/
def contextFor (task : String) (route : Nat) : Conducting Value := do
  try initialContext task route
  catch e =>
    match e with
    | .refused .value _ => workflowContext
    | e => throw e

def delayOf (task : Task) (context : Value) : Except Error (Option Value) := do
  if !task.delay.truthy then return none
  let delay ← match task.delay with
    | .str _ => Task.evaluate context task.delay
    | v => .ok v
  match delay with
  | .int _ | .bool _ => return some delay
  | _ => throw (.refused .type "The value of task delay is not type of integer.")

def itemsOf (task : Task) (context : Value) (actions : List Action) :
    Except Error (Option (Nat × Value)) := do
  match task.repetition with
  | none => return none
  | some (.over _ concurrency) => return some (actions.length, ← Task.evaluate context concurrency)
  | some (.unusable _) => return some (actions.length, .null)

def offer (task : String) (route : Nat) : Conducting Offer := do
  let context ← contextFor task route
  let context ← ofExcept (Context.setTask context (.fields [("id", .str task), ("route", .int route)]))
  let context ← withState context
  let spec ← ofExcept (← taskSpec task).copy
  let described ← ofExcept (Task.ofSpec spec)
  let actions ← ofExcept (described.render context)
  let delay ← ofExcept (delayOf described context)
  let items ← ofExcept (itemsOf described context actions)
  return ⟨task, route, context, spec, actions, delay, items⟩

def availability (concurrency : Value) (active : Nat) : Except Error Int := do
  match ← Value.sub concurrency (.int active) with
  | .int n => .ok n
  | _ => .error (.broken .type "slice indices must be integers or None or have an __index__ method")

def startable (actions : List Action) (items : List Status) (concurrency : Value) :
    Except Error (List Action) := do
  let paired := actions.zip items
  let waiting := (paired.filter (·.2 == .unset)).map (·.1)
  match concurrency with
  | .null => .ok waiting
  | limit => do
    .ok (waiting.take (← availability limit (paired.filter (·.2.isActive)).length).toNat)

/-- Keeps track of the items of a task, and offers those that can be started. -/
def limitItems (o : Offer) : Conducting Offer := do
  match o.items with
  | none => return o
  | some (count, concurrency) =>
    let begin (t : Staged) : Staged :=
      if (t.items.getD []).isEmpty then { t with items := some (List.replicate count .unset) }
      else t
    modifyState (·.updateStaged o.task o.route begin)
    let items := (((← getState).staged? o.task o.route).bind (·.items)).getD []
    return { o with actions := ← ofExcept (startable o.actions items concurrency) }

/-- The delay of a task that is tried again replaces its own. -/
def retryDelay (t : Staged) (o : Offer) : Except Error Offer :=
  match t.retry with
  | none => .ok o
  | some retry =>
    let delay := retry.value.field "delay"
    .ok { o with delay := some (if delay.truthy then delay else .int 0) }

def offerStaged (t : Staged) : Conducting Offer := do
  let o ← limitItems (← offer t.task t.route)
  ofExcept (retryDelay t o)

/-- Whether there is something to do for a task. A task without any items is done by reporting
so. -/
def isWorth (o : Offer) : Bool := !o.actions.isEmpty || (o.items.map (·.1)) == some 0

def offerAll : List Staged → Conducting (List Offer × Bool)
  | [] => return ([], false)
  | t :: rest => do
    let found ← try
        let o ← offerStaged t
        pure (some (if isWorth o then [o] else []))
      catch e =>
        logError e (.ofTask t.task t.route)
        pure none
    let (offers, failed) ← offerAll rest
    match found with
    | some new => return (new ++ offers, failed)
    | none => return (offers, true)

def sortOffers (offers : List Offer) : List Offer :=
  offers.mergeSort fun a b =>
    ((Value.compareText a.task b.task).then (compare a.route b.route)) != .gt

/-- The tasks to be carried out next. If one of them cannot be rendered the workflow fails. -/
def nextTasks : Conducting (List Offer) := do
  let s ← getState
  let remedies := if s.status == .failed then s.ready.filter (·.runOnFail) else []
  if !s.status.isUnderWay && remedies.isEmpty then return []
  let (offers, failed) ← offerAll (if remedies.isEmpty then s.ready else remedies)
  if failed then
    requestStatus .failed
    return []
  return sortOffers offers

end Conductor

end Orchestration
