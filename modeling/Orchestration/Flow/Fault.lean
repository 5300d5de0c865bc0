import Orchestration.Flow.Cycle

/-!
What can be wrong with a flow: tasks that are not defined, and joins that cannot be reached.
-/

namespace Orchestration.Flow

structure Undefined where
  task : String
  branch : Nat
  target : String
  deriving DecidableEq, Repr

structure Search where
  visited : List String
  undefined : List Undefined

/-- Looks at one target: what is found, and what is to be visited. -/
def lookAt (flow : Flow) (task : String) (branch : Nat) (target : String) (visited : List String) :
    List Undefined × List String :=
  if visited.contains target then ([], [])
  else if flow.has target then
    if Command.isName target || visited.contains target then ([], []) else ([], [target])
  else ([⟨task, branch, target⟩], [])

/-- What is no text is not defined either. -/
def reportOdd (task : String) (odd : Nat × Value) : Except Error Undefined :=
  if odd.2.hashable then .ok ⟨task, odd.1, odd.2.text⟩ else .error (Value.unhashable odd.2)

def seekUndefined (flow : Flow) : Worklist.Visit Search String := fun state name => do
  let step ← flow.step name
  let visited := name :: state.visited
  let found := step.branches.zipIdx.flatMap fun (branch, i) =>
    branch.targets.map fun target => flow.lookAt name i target visited
  let odd ← step.odd.mapM (reportOdd name)
  .ok (⟨visited, state.undefined ++ found.flatMap (·.1) ++ odd⟩, found.flatMap (·.2))

/-- The branches of tasks that can be reached which go on to undefined tasks. -/
def undefinedTasks (flow : Flow) : Except Error (List Undefined) := do
  let state ← Worklist.run flow.seekUndefined flow.rounds ⟨[], []⟩ flow.startTasks
  .ok state.undefined

/-- What is known of a task that has been reached. -/
structure Reached where
  task : String
  isJoin : Bool
  /-- The splits on the ways to the task. -/
  splits : List String
  before : List String

structure Spread where
  reached : List Reached
  taken : List (String × List String)

/-- A way that is to be taken: from where, to which task, and through which splits. -/
structure Way where
  source : Option String
  task : String
  splits : List String

def joinSets (left right : List String) : List String := left ++ right.filter (!left.contains ·)

def isSubset (left right : List String) : Bool := left.all right.contains

def sameSet (left right : List String) : Bool := isSubset left right && isSubset right left

namespace Spread

def knows (spread : Spread) (task : String) : Bool := spread.reached.any (·.task == task)

def note (spread : Spread) (way : Way) (isJoin : Bool) (splits : List String) : Spread :=
  let before := way.source.toList
  if spread.knows way.task then
    { spread with
      reached := spread.reached.map fun r =>
        if r.task == way.task then
          { r with splits := joinSets r.splits splits, before := joinSets r.before before }
        else r }
  else { spread with reached := spread.reached ++ [⟨way.task, isJoin, joinSets [] splits, before⟩] }

/-- Takes a way, unless it has been taken through all these splits. -/
def take (spread : Spread) (source target : String) (splits : List String) : Spread × List Way :=
  let id := source ++ "_" ++ target
  let known := ((spread.taken.find? (·.1 == id)).map (·.2)).getD []
  if !known.isEmpty && isSubset splits known then (spread, [])
  else
    ({ spread with taken := (id, joinSets known splits) :: spread.taken.filter (·.1 != id) },
      [⟨some source, target, splits⟩])

end Spread

def takeLinks (flow : Flow) (source : String) (splits : List String) :
    Spread → List Link → Except Error (Spread × List Way)
  | spread, [] => .ok (spread, [])
  | spread, link :: rest => do
    let isOpen ← if spread.knows link.task then do .ok (!(← flow.inCycle link.task)) else .ok true
    let (spread, ways) := if isOpen then spread.take source link.task splits else (spread, [])
    let (spread, more) ← flow.takeLinks source splits spread rest
    .ok (spread, ways ++ more)

/-- Goes one way. A task that splits, and is in no cycle, is one more split for what follows. -/
def goWay (flow : Flow) : Worklist.Visit Spread Way := fun spread way => do
  if !flow.defines way.task then .ok (spread, [])
  else
    let isFork ← if ← flow.isSplit way.task then do .ok (!(← flow.inCycle way.task)) else .ok false
    let splits := if isFork then way.splits ++ [way.task] else way.splits
    let spread := spread.note way (← flow.isJoin way.task) splits
    let step ← flow.step way.task
    step.refuseOdd oddName
    flow.takeLinks way.task splits spread step.links

def spread (flow : Flow) : Except Error (List Reached) := do
  let state ← Worklist.run flow.goWay flow.rounds ⟨[], []⟩ (flow.startTasks.map fun task => ⟨none, task, []⟩)
  .ok state.reached

/-- Whether a join lies behind the same splits as all tasks before it. -/
def Reached.agrees (reached : List Reached) (join : Reached) : Bool :=
  join.before.all fun task =>
    match reached.find? (·.task == task) with
    | some r => sameSet join.splits r.splits
    | none => true

/-- The joins that cannot be reached, because the tasks before them lie behind different splits. -/
def unreachableJoins (flow : Flow) : Except Error (List String) := do
  let reached ← flow.spread
  .ok ((reached.filter fun r => r.isJoin && !Reached.agrees reached r).map (·.task))

def lacksStart (flow : Flow) : Bool := !flow.steps.isEmpty && flow.startTasks.isEmpty

end Orchestration.Flow
