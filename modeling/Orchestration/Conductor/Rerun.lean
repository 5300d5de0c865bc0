import Orchestration.Conductor.Output
import Orchestration.Conductor.Update

/-!
Running parts of a workflow again after it has ended.
-/

namespace Orchestration

variable [Engine]

structure Rerun where
  task : Value
  route : Value
  /-- Whether all items are run again, or only those that failed. -/
  resetItems : Bool

namespace Rerun

def key (r : Rerun) : String := Spec.entryId r.task r.route

def ofSpec (s : Spec) : Except Error Rerun := do
  .ok ⟨← s.value "task_id", ← s.value "route", (← s.value "reset_items").truthy⟩

def request (task route resetItems : Value) : Except Error Spec :=
  Spec.make .rerunRequest (.fields [("task_id", task), ("route", route), ("reset_items", resetItems)])

def read (v : Value) : Except Error Rerun := do ofSpec (← Spec.make .rerunRequest v)

/-- Of requests with one key the last one counts, in the place of the first. -/
def unique (requests : List Rerun) : List (String × Rerun) :=
  requests.foldl (fun found r => putNamed found r.key r) []

end Rerun

namespace Conductor

/-! ### Which tasks are run again -/

/-- A request is kept if it reaches something that one of the requests does not reach. -/
def isKept (reached : List Nat) (all : List (List Nat)) : Bool :=
  all.any fun other => reached.any fun i => !other.contains i

/-- What is run again with the task of a request. Only a text is the name of a task, and only a
number is a route; anything else that is written the same way reaches no further than to the
task. -/
def reached (s : State) (r : Rerun) : List Nat :=
  match r.task, r.route with
  | .str task, .int (.ofNat route) => s.downstream task route
  | _, _ => (s.tasks.lookup r.key).toList

/-- Of several requests those that are not part of all others. -/
def collapse (s : State) (requests : List (String × Rerun)) : List (String × Rerun) :=
  let all := requests.map fun (_, r) => reached s r
  if requests.length > 1 then
    (requests.zip all).filterMap fun (r, own) => if isKept own all then some r else none
  else requests

/-- Of entries for one task on one route the last one counts, in the place of the first. -/
def lastOfEach (entries : List (Nat × Entry)) : List Nat :=
  (entries.foldl (fun found (i, e) => putNamed found (State.taskKey e.task e.route) i) []).map (·.2)

def failedEnds (s : State) : List Nat :=
  lastOfEach (s.terminalEntries.filter fun (_, e) => e.hasStatus Status.abended)

/-- The entries to be run again: those that are asked for, or those at which the workflow has
failed. -/
def candidates (s : State) (requests : List (String × Rerun)) : List Nat :=
  if requests.isEmpty then failedEnds s
  else (collapse s requests).filterMap fun (key, _) => s.tasks.lookup key

/-! ### Running again -/

/-- An item that failed, or any item, is to be run again. -/
def resetItem (all : Bool) (item : Status) : Status :=
  if all || item.isAbended then .unset else item

def forgetErrors (task : String) : Conducting Unit :=
  modify fun c => { c with errors := c.errors.filter fun e => !(e.field "task_id" == .str task) }

def clearTerminal (indices : List Nat) : Conducting Unit :=
  indices.forM fun i => modifyEntry i fun e => { e with terminal := false }

/-- Prepares a task to be run again: one with items goes on with its items, any other is staged
anew. -/
def prepareRerun (task : String) (route : Nat) (resetItems : Bool) : Conducting Unit := do
  let index := ((← getState).index? task route).getD 0
  let entry ← entryAt index
  let spec ← taskSpec task
  modifyEntry index fun e => { e with terminal := false }
  modifyState (·.updateStaged task route fun t => { t with completed := false })
  forgetErrors task
  if spec.hasItems then
    if ((← getState).staged? task route).isNone then
      throw (.broken .noAttribute "'NoneType' object has no attribute 'get'")
    modifyState (·.updateStaged task route fun t => { t with items := t.items.map (·.map (resetItem resetItems)) })
  else
    let contexts ← share entry.contexts.value
    let prev ← share entry.prev.value
    let _ ← addEntry task route contexts prev
    let staged ← heldOr contexts [0]
    modifyState (·.stage task route staged prev true none)
  clearTerminal ((← getState).downstream task route)

/-- The last tasks that went on to something: the workflow resumes there. -/
def continuable (s : State) : List Nat :=
  lastOfEach (s.terminalEntries.filter fun (_, e) => e.next.any (·.2))

def sortEntries (entries : List Entry) : List Entry :=
  entries.mergeSort fun a b => ((Value.compareText a.task b.task).then (compare a.route b.route)) != .gt

/-- Prepares all tasks that are to be run again. Without any, the tasks at which the workflow has
failed are run again. -/
def prepareReruns (requests : List Rerun) : Conducting Unit := do
  if !(← getState).status.isCompleted then throw .stillActive
  let requests := Rerun.unique requests
  let s ← getState
  let invalid := requests.filter fun (key, _) => (s.tasks.lookup key).isNone
  if !invalid.isEmpty then
    throw (.cannotRerun (invalid.map fun (_, r) => (r.task.text, r.route.text)))
  let indices := candidates s requests
  modifyState fun s => { s with reruns := s.reruns ++ [indices] }
  let entries := indices.filterMap (s.sequence[·]?)
  (sortEntries entries).forM fun e =>
    prepareRerun e.task e.route (((requests.lookup (State.taskKey e.task e.route)).map (·.resetItems)).getD false)
  clearTerminal (continuable (← getState))
  resetOutput

def requestRerun (requests : List Rerun) : Conducting Unit := do
  prepareReruns requests
  setStatus .resuming

end Conductor

end Orchestration
