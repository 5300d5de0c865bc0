import Orchestration.Flow.Fault
import Orchestration.Graph.Basic

/-!
The graph of a flow.

The flow is walked through from its start tasks. Every link becomes an edge, but for links to
`retry`, which say that the task itself is tried again. A task knows the splits on the way on which
it was reached last.
-/

namespace Orchestration.Flow

structure Composing where
  graph : Graph
  /-- The splits with which tasks have been gone on to. -/
  taken : List (String × List String)

/-- How a link to `retry` is tried again. -/
def retryOnce (condition : Value) : Value :=
  .fields [("when", if condition.isNull then .str "<% completed() %>" else condition), ("count", .int 3)]

def criteria (condition : Value) : Value := .list (if condition.isNull then [] else [condition])

/-- How many steps a join waits for; `*` stands for all. -/
def barrierOf (join : Value) : Value := if join == .str "all" then .str "*" else join

/-- Goes on to a task, unless it has been gone on to with all these splits. -/
def Composing.goOn (c : Composing) (target : String) (splits : List String) :
    Composing × List (String × List String) :=
  let known := ((c.taken.find? (·.1 == target)).map (·.2)).getD []
  if !known.isEmpty && isSubset splits known then (c, [])
  else
    ({ c with taken := (target, joinSets known splits) :: c.taken.filter (·.1 != target) }, [(target, splits)])

/-- Draws the edge of a link, if it is not there. -/
def draw (graph : Graph) (source : String) (link : Link) : Except Error Graph :=
  let attributes := [("criteria", criteria link.condition), ("ref", Value.int link.branch)]
  let entries : Entries := attributes.map fun (k, v) => (.str k, v)
  match graph.transitions source link.task attributes with
  | e :: _ => graph.updateTransition source link.task e.key entries
  | [] => .ok (graph.addTransition source link.task .null entries)

def drawLinks (flow : Flow) (source : String) (splits : List String) :
    Composing → List Link → Except Error (Composing × List (String × List String))
  | c, [] => .ok (c, [])
  | c, link :: rest => do
    if link.task == Command.retry.name then
      let graph ← c.graph.updateTask source [(.str "retry", retryOnce link.condition)]
      flow.drawLinks source splits { c with graph := graph } rest
    else
      let isOpen ← if c.graph.hasTask link.task then do .ok (!(← flow.inCycle link.task)) else .ok true
      let (c, ways) := if isOpen then c.goOn link.task splits else (c, [])
      let graph ← draw c.graph source link
      let (c, more) ← flow.drawLinks source splits { c with graph := graph } rest
      .ok (c, ways ++ more)

def attributesOf (step : Step) (splits : List String) : Entries :=
  (if step.isJoin then [(.str "barrier", barrierOf step.join)] else []) ++
    (if splits.isEmpty then [] else [(.str "splits", .list (splits.map Value.str))]) ++
    (if step.retry.truthy then [(.str "retry", step.retry)] else [])

def composeStep (flow : Flow) :
    Worklist.Visit Composing (String × List String) := fun c (name, splits) => do
  let step ← flow.step name
  let isFork ← if ← flow.isSplit name then do .ok (!(← flow.inCycle name)) else .ok false
  let splits := if isFork then splits ++ [name] else splits
  let c := { c with graph := c.graph.addTask name (attributesOf step splits) }
  step.refuseOdd oddTask
  flow.drawLinks name splits c step.links

def compose (flow : Flow) : Except Error Graph := do
  let c ← Worklist.run flow.composeStep (flow.rounds + Command.all.length) ⟨Graph.empty, []⟩
    (flow.startTasks.map fun task => (task, []))
  .ok c.graph

end Orchestration.Flow
