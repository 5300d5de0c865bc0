import Orchestration.Conductor.Basic

/-!
The status of a workflow, and how it follows its tasks and its host.
-/

namespace Orchestration

inductive Inbound where
  | satisfied
  | unfinished
  | unsatisfied
  deriving DecidableEq, Repr

namespace Inbound

def text : Inbound → String
  | .satisfied => "inbound_criteria_satisfied"
  | .unfinished => "inbound_criteria_wip"
  | .unsatisfied => "inbound_criteria_not_satisfied"

end Inbound

namespace Conductor

/-! ### What follows a task, and what a task waits for -/

/-- Whether a task went on along a transition; nothing if it has not been started. -/
def taken (s : State) (edge : Edge) (route : Nat) : Option Bool :=
  (s.latest? edge.source route).map fun e =>
    (e.next.lookup (State.transitionKey edge.target edge.key)).getD false

/-- Whether one of the tasks before a task went on to it; nothing if that is not known yet. -/
def inboundFrom (s : State) (edges : List Edge) (source : String) (route : Nat) : Option Bool :=
  (edges.filter (·.source == source)).foldl (fun known edge =>
    if known == some true then known else (taken s edge route).or known) none

def meets (count : Nat) (barrier : Value) (all : Nat) : Except Error Bool :=
  if !barrier.truthy then .ok (decide (1 ≤ count))
  else if barrier == .str "*" then .ok (decide (all ≤ count))
  else Value.compares .greaterOrSame (.int count) barrier

def inboundOf (g : Graph) (s : State) (task : String) (route : Nat) : List (Option Bool) :=
  let edges := g.prevTransitions task
  (edges.map (·.source)).eraseDups.map fun source => inboundFrom s edges source route

def isMet (g : Graph) (s : State) (task : String) (route : Nat) : Except Error Bool := do
  let known := inboundOf g s task route
  meets (known.count (some true)) (← g.barrier task) known.length

def inboundIn (g : Graph) (s : State) (task : String) (route : Nat) : Except Error Inbound := do
  if ← isMet g s task route then return .satisfied
  else if (inboundOf g s task route).contains none && (s.hasActive || s.hasReady) then return .unfinished
  else return .unsatisfied

def inbound (task : String) (route : Nat) : Conducting Inbound := do
  ofExcept (inboundIn (← graph) (← getState) task route)

/-- Whether a transition has been taken to something that is still to come. -/
def leadsOn (g : Graph) (s : State) (e : Entry) (route : Nat) (judgeJoins : Bool) (edge : Edge) :
    Except Error Bool := do
  if edge.target == Command.continue.name then return false
  else if !(e.next.lookup (State.transitionKey edge.target edge.key)).getD false then return false
  else if ← g.hasBarrier edge.target then
    if judgeJoins then return (← inboundIn g s edge.target route) != .unsatisfied
    else return true
  else return true

def follows (task : String) (route : Nat) (judgeJoins : Bool) : Conducting Bool := do
  let s ← getState
  match s.latest? task route with
  | none => return false
  | some e =>
    if e.isCompleted then
      let g ← graph
      ofExcept ((g.nextTransitions task).anyM (leadsOn g s e route judgeJoins))
    else return false

def hasBarrierNext (task : Option String) (route : Option Nat) : Conducting Bool :=
  match task, route with
  | some task, some route => follows task route false
  | _, _ => return false

/-- Whether something follows a task; without a task, whether anything can be started. -/
def hasNext (task : Option String) (route : Option Nat) : Conducting Bool := do
  match task, route with
  | none, _ | some "", _ => return (← getState).hasReady
  | some task, some route => follows task route true
  | some _, none => return false

/-- The joins that have been reached in part, and will never be reached in full. -/
def unreachableJoins : Conducting (List Staged) := do
  let g ← graph
  let s ← getState
  let barriers := g.barriers.map (·.id)
  ofExcept (s.staged.filterM fun t => do
    if barriers.contains t.task && !t.ready then
      return (← inboundIn g s t.task t.route) == .unsatisfied
    else return false)

/-! ### Events -/

def outlook (s : State) (next : Bool) : Outlook :=
  if s.hasCanceling || s.hasCanceled then .canceled
  else if s.hasPausing || s.hasPaused then .paused
  else if s.hasReady || next then .incomplete
  else .completed

def surroundings (task : Option String) (route : Option Nat) :
    Conducting Machine.Workflow.Surroundings := do
  let joinsNext ← hasBarrierNext task route
  let next ← hasNext task route
  let s ← getState
  return ⟨s.hasActive, next || joinsNext, outlook s next⟩

def taskOf (e : Event) : Option String × Option Nat :=
  match e.kind with
  | .task id route => (id, route)
  | _ => (none, none)

def taskSignal (e : Event) : Conducting Signal := do
  let (task, route) := taskOf e
  return Machine.Workflow.taskSignal e (← surroundings task route)

def requestSignal (s : State) (e : Event) : Signal :=
  let settled := s.status == .paused && !s.hasActive && !s.hasReady && !s.hasPaused
  Machine.Workflow.requestSignal e s.hasActive settled

def setStatus (status : Status) : Conducting Unit :=
  modifyState fun s => { s with status := status }

def requireKnown (signal : Signal) (signals : List Signal) : Conducting Unit := do
  if !signals.contains signal then throw (.wrongEvent signal.name)

def failUnreachable : Conducting Unit := do
  if (← getState).status.isCompleted then
    let joins ← unreachableJoins
    if !joins.isEmpty then
      setStatus .failed
      joins.forM fun t =>
        logError (.unreachableJoin t.task (toString t.route)) (.ofTask t.task t.route)

def followTask (e : Event) : Conducting Unit := do
  let signal ← taskSignal e
  requireKnown signal Signal.taskSignals
  match ← ofExcept (Machine.Workflow.step (← getState).status signal) with
  | some new =>
    setStatus new
    failUnreachable
  | none => return

def followRequest (e : Event) : Conducting Unit := do
  let s ← getState
  let signal := requestSignal s e
  requireKnown signal Signal.workflowSignals
  match ← ofExcept (Machine.Workflow.step s.status signal) with
  | some new => setStatus new
  | none => return

def follow (e : Event) : Conducting Unit :=
  match e.kind with
  | .workflow => followRequest e
  | .task .. => followTask e
  | _ => throw e.wrongType

/-! ### Requests -/

def changeStatus (status : Status) : Conducting Unit := do
  let old := (← getState).status
  if ← ofExcept (Machine.canGo Machine.Workflow.row? old status) then setStatus status
  else throw (.statusTransition old.text status.text)

/-- Whether a request that changed nothing is no failure: the workflow is on its way. -/
def isPending (status old new : Status) : Bool :=
  (status == .paused && old == .pausing && new == .pausing) ||
  (status == .canceled && old == .canceling && new == .canceling)

/-- Asks for a status. The tasks that are active are told first. -/
def requestStatus (status : Status) : Conducting Unit := do
  let old := (← getState).status
  let e := Event.workflow status
  ((← getState).entriesWith Status.active true).forM fun (i, _) => tryState (·.advance i e)
  follow e
  let new := (← getState).status
  if !isPending status old new && status != old && old == new then
    throw (.workflowEvent old.text e.signal.name)

end Conductor

end Orchestration
