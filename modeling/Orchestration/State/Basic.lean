import Orchestration.Context.Store
import Orchestration.Status

/-!
The state of a workflow: which tasks have been started, which are to be started, and what they read.

The sequence lists the tasks in the order in which they were started, with one entry for each time.
A task that is to be started is staged. An entry and what was staged for it may hold the same
indices of contexts, the same links to what came before, and the same account of retries: what is
written to one of them is written to the other.
-/

namespace Orchestration

/-- Something that several entries may hold. Under one mark it is one and the same. -/
structure Shared (α : Type) where
  mark : Nat
  value : α

structure Staged where
  task : String
  route : Nat
  contexts : Shared (List Nat)
  /-- The transitions that led here, each with the index of the entry it left. -/
  prev : Shared (List (String × Nat))
  ready : Bool
  retry : Option (Shared Value)
  items : Option (List Status)
  completed : Bool
  /-- Whether the task is to be started even when the workflow has failed. -/
  runOnFail : Bool

/-- A task that has been started. -/
structure Entry where
  task : String
  route : Nat
  contexts : Shared (List Nat)
  /-- The context that was published last, with the transition that published it. -/
  out : List (String × Nat)
  prev : Shared (List (String × Nat))
  /-- The transitions that were looked at, and whether they were taken. -/
  next : List (String × Bool)
  retry : Option (Shared Value)
  status : Status
  terminal : Bool

structure State where
  contexts : Contexts
  /-- For each route the transitions at which it branched off. -/
  routes : List (List String)
  sequence : List Entry
  staged : List Staged
  status : Status
  tasks : List (String × Nat)
  reruns : List (List Nat)
  nextMark : Nat

def putNamed {α : Type} (list : List (String × α)) (name : String) (v : α) : List (String × α) :=
  match list with
  | [] => [(name, v)]
  | (n, w) :: rest => if n == name then (n, v) :: rest else (n, w) :: putNamed rest name v

namespace Shared

def changeAt {α : Type} (s : Shared α) (mark : Nat) (f : α → α) : Shared α :=
  if s.mark == mark then { s with value := f s.value } else s

end Shared

namespace Staged

def isReady (t : Staged) : Bool := t.ready && !t.completed

def isAt (t : Staged) (task : String) (route : Nat) : Bool := t.task == task && t.route == route

def hasActiveItem (t : Staged) : Bool :=
  (t.items.getD []).any (·.isActive)

end Staged

namespace Entry

def isAt (e : Entry) (task : String) (route : Nat) : Bool := e.task == task && e.route == route

def hasStatus (e : Entry) (statuses : List Status) : Bool := statuses.contains e.status

def isCompleted (e : Entry) : Bool := e.hasStatus Status.completed

end Entry

namespace State

def empty : State := ⟨.empty, [], [], [], .unset, [], [], 1⟩

def taskKey (task : String) (route : Nat) : String := task ++ "__r" ++ toString route

def transitionKey (task : String) (key : Value) : String := task ++ "__t" ++ key.text

def share {α : Type} (s : State) (v : α) : Shared α × State :=
  (⟨s.nextMark, v⟩, { s with nextMark := s.nextMark + 1 })

/-! ### Tasks that have been started -/

def index? (s : State) (task : String) (route : Nat) : Option Nat :=
  s.tasks.lookup (taskKey task route)

def latest? (s : State) (task : String) (route : Nat) : Option Entry :=
  (s.index? task route).bind (s.sequence[·]?)

def numbered (s : State) : List (Nat × Entry) := s.sequence.zipIdx.map fun (e, i) => (i, e)

def isLatest (s : State) (index : Nat) : Bool := s.tasks.any (·.2 == index)

/-- Of some entries those that are the latest of their task and route, or all of them. -/
def restrict (s : State) (latestOnly : Bool) (entries : List (Nat × Entry)) : List (Nat × Entry) :=
  if latestOnly then entries.filter fun (i, _) => s.isLatest i else entries

def entriesWith (s : State) (statuses : List Status) (latestOnly : Bool) : List (Nat × Entry) :=
  s.restrict latestOnly (s.numbered.filter fun (_, e) => e.hasStatus statuses)

def entriesOf (s : State) (task : Option String) (route : Option Nat) (latestOnly : Bool) :
    List (Nat × Entry) :=
  s.restrict latestOnly (s.numbered.filter fun (_, e) =>
    match task, route with
    | none, _ => true
    | some task, none => e.task == task
    | some task, some route => e.isAt task route)

def hasLatest (s : State) (statuses : List Status) : Bool := !(s.entriesWith statuses true).isEmpty

def hasActive (s : State) : Bool := s.hasLatest Status.active

def hasPausing (s : State) : Bool := s.hasLatest [.pausing]

def hasPaused (s : State) : Bool := s.hasLatest [.paused, .pending]

def hasCanceling (s : State) : Bool := s.hasLatest [.canceling]

def hasCanceled (s : State) : Bool := s.hasLatest [.canceled]

def terminalEntries (s : State) : List (Nat × Entry) := s.numbered.filter (·.2.terminal)

def updateEntry (s : State) (index : Nat) (f : Entry → Entry) : State :=
  { s with sequence := s.sequence.modify index f }

def addEntry (s : State) (e : Entry) : State :=
  { s with
    sequence := s.sequence ++ [e]
    tasks := putNamed s.tasks (taskKey e.task e.route) s.sequence.length }

/-- The entry of a task, and every entry with a link to one of that task on its route, once for each
link. -/
def downstream (s : State) (task : String) (route : Nat) : List Nat :=
  let links := s.numbered.flatMap fun (i, e) =>
    (e.prev.value.filter fun (_, p) => ((s.sequence[p]?).map (·.isAt task route)).getD false).map fun _ => i
  (s.index? task route).toList ++ links

/-! ### Tasks that are to be started -/

def ready (s : State) : List Staged := s.staged.filter (·.isReady)

def hasReady (s : State) : Bool := !s.ready.isEmpty

def staged? (s : State) (task : String) (route : Nat) : Option Staged :=
  s.staged.find? (·.isAt task route)

def updateStaged (s : State) (task : String) (route : Nat) (f : Staged → Staged) : State :=
  { s with staged := s.staged.modify (s.staged.findIdx (·.isAt task route)) f }

/-- Takes a task out of staging, unless some of its items are active. -/
def unstage (s : State) (task : String) (route : Nat) : State :=
  match s.staged? task route with
  | some t =>
    if t.hasActiveItem then s else { s with staged := s.staged.eraseP (·.isAt task route) }
  | none => s

def stage (s : State) (task : String) (route : Nat) (contexts : Shared (List Nat))
    (prev : Shared (List (String × Nat))) (ready : Bool) (retry : Option (Shared Value)) : State :=
  { s with staged := s.staged ++ [⟨task, route, contexts, prev, ready, retry, none, false, false⟩] }

/-! ### What is held in several places -/

def changeContexts (s : State) (mark : Nat) (f : List Nat → List Nat) : State :=
  { s with
    staged := s.staged.map fun t => { t with contexts := t.contexts.changeAt mark f }
    sequence := s.sequence.map fun e => { e with contexts := e.contexts.changeAt mark f } }

def changePrev (s : State) (mark : Nat) (f : List (String × Nat) → List (String × Nat)) : State :=
  { s with
    staged := s.staged.map fun t => { t with prev := t.prev.changeAt mark f }
    sequence := s.sequence.map fun e => { e with prev := e.prev.changeAt mark f } }

def changeRetry (s : State) (mark : Nat) (f : Value → Value) : State :=
  { s with
    staged := s.staged.map fun t => { t with retry := t.retry.map (·.changeAt mark f) }
    sequence := s.sequence.map fun e => { e with retry := e.retry.map (·.changeAt mark f) } }

end State

end Orchestration
