import Orchestration.Graph.Basic

/-!
The cycles of a graph.

A cycle is a way from a task back to itself on which no task comes twice. Each cycle is listed once,
from the task in it that was added first.
-/

namespace Orchestration.Graph

def successors (g : Graph) (id : String) : List String := ((g.outEdges id).map (·.target)).eraseDups

/-- The tasks from which one of some tasks can be reached inside `allowed`. -/
def reaching (g : Graph) (allowed : List String) : Nat → List String → List String
  | 0, found => found
  | fuel + 1, found =>
    let more := allowed.filter fun id => !found.contains id && (g.successors id).any found.contains
    if more.isEmpty then found else reaching g allowed fuel (found ++ more)

/-- The ways on from the last task of a way, backwards, that come back to its start. -/
def close (g : Graph) (start : String) (useful : List String) :
    Nat → List String → List (List String)
  | 0, _ => []
  | _, [] => []
  | fuel + 1, last :: before =>
    (g.successors last).flatMap fun next =>
      if next == start then [(last :: before).reverse]
      else if useful.contains next && !(last :: before).contains next then
        close g start useful fuel (next :: last :: before)
      else []

/-- The cycles through a task and tasks that were added after it. -/
def cyclesFrom (g : Graph) (start : String) (later : List String) : List (List String) :=
  let useful := g.reaching (start :: later) (later.length + 1) [start]
  g.close start useful (later.length + 1) [start]

def cyclesAmong (g : Graph) : List String → List (List String)
  | [] => []
  | start :: later => g.cyclesFrom start later ++ g.cyclesAmong later

def cycles (g : Graph) : List (List String) := g.cyclesAmong (g.vertices.map (·.id))

def cyclesThrough (g : Graph) (id : String) : List (List String) := g.cycles.filter (·.contains id)

def inCycle (g : Graph) (id : String) : Bool := g.cycles.any (·.contains id)

/-! ### A cycle as edges -/

/-- What a search in depth has come to: the edges that are left at each task, and the way that it is
on. -/
structure Descent where
  left : List (String × List Edge)
  way : List Edge

namespace Descent

def leftAt (d : Descent) (g : Graph) (id : String) : List Edge :=
  match d.left.find? (·.1 == id) with
  | some (_, edges) => edges
  | none => g.outEdges id

def setLeft (d : Descent) (id : String) (edges : List Edge) : Descent :=
  { d with left := (id, edges) :: d.left.filter (·.1 != id) }

end Descent

def tailFrom (id : String) (way : List Edge) : List Edge :=
  match way.reverse.dropWhile (·.source != id) with
  | [] => way.reverse
  | edges => edges

/-- Goes down along edges that have not been taken, and stops at the first task that is on the way
already. -/
def descend (g : Graph) (start : String) : Nat → Descent → Option (List Edge)
  | 0, _ => none
  | fuel + 1, d =>
    let here := (d.way.head?.map (·.target)).getD start
    match d.leftAt g here with
    | [] =>
      match d.way with
      | [] => none
      | _ :: way => descend g start fuel { d with way := way }
    | e :: rest =>
      let d := d.setLeft here rest
      let way := e :: d.way
      if e.target == start || d.way.any (·.target == e.target) then some (tailFrom e.target way)
      else descend g start fuel { d with way := way }

/-- The first cycle that is found from a task. -/
def cycleFrom (g : Graph) (start : String) : Option (List Edge) :=
  g.descend start (2 * g.edges.length + 2) ⟨[], []⟩

def isClosed (g : Graph) (tasks : List String) : Bool :=
  tasks.all fun id => (g.nextTransitions id).all fun e => tasks.contains e.target

end Orchestration.Graph
