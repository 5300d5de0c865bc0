import Orchestration.Value.Copy
import Orchestration.Value.Order

/-!
Graphs of tasks.

A vertex is a task and has attributes. Several edges may lead from one task to another; they are
told apart by their keys. Tasks and edges are kept in the order in which they were added.
-/

namespace Orchestration

structure Vertex where
  id : String
  attributes : Entries

structure Edge where
  source : String
  target : String
  key : Value
  attributes : Entries

structure Graph where
  vertices : List Vertex
  edges : List Edge
  /-- What is said about the graph as a whole. -/
  about : Entries

namespace Entries

def insertAll (entries more : Entries) : Entries :=
  more.foldl (fun es (k, v) => Entries.insert es k v) entries

end Entries

namespace Edge

def get (e : Edge) (name : String) : Value := (Entries.getStr? e.attributes name).getD .null

def toValue (e : Edge) : Value := .tuple [.str e.source, .str e.target, e.key, .map e.attributes]

def agrees (e : Edge) (constraint : String × Value) : Bool := e.get constraint.1 == constraint.2

/-- Sorts by target; edges to one target keep their order. -/
def sortByTarget (edges : List Edge) : List Edge :=
  edges.mergeSort fun a b => Value.compareText a.target b.target != .gt

end Edge

namespace Graph

def empty : Graph := ⟨[], [], []⟩

def vertex? (g : Graph) (id : String) : Option Vertex := g.vertices.find? (·.id == id)

def hasTask (g : Graph) (id : String) : Bool := g.vertices.any (·.id == id)

/-! ### Tasks -/

def attributes (g : Graph) (id : String) : Except Error Entries :=
  match g.vertex? id with
  | some v => .ok v.attributes
  | none => .error (.unknownTask id)

def task (g : Graph) (id : String) : Except Error Entries := do
  let attributes ← g.attributes id
  match (Value.map attributes).copy with
  | .map copied => .ok (Entries.insertAll [(.str "id", .str id)] copied)
  | _ => .ok [(.str "id", .str id)]

def taskField (g : Graph) (id name : String) : Except Error Value := do
  .ok ((Entries.getStr? (← g.task id) name).getD .null)

def setAttributes (g : Graph) (id : String) (attributes : Entries) : Graph :=
  { g with
    vertices := g.vertices.map fun v =>
      if v.id == id then { v with attributes := Entries.insertAll v.attributes attributes } else v }

def updateTask (g : Graph) (id : String) (attributes : Entries) : Except Error Graph :=
  if g.hasTask id then .ok (g.setAttributes id attributes) else .error (.unknownTask id)

def addTask (g : Graph) (id : String) (attributes : Entries) : Graph :=
  if g.hasTask id then g.setAttributes id attributes
  else { g with vertices := g.vertices ++ [⟨id, attributes⟩] }

def taskAttributes (g : Graph) (name : String) : List (String × Value) :=
  g.vertices.map fun v => (v.id, (Entries.getStr? v.attributes name).getD .null)

/-! ### Transitions -/

/-- Puts the edges with the same end together, in the order in which the ends first occur. -/
def grouped (endOf : Edge → String) (edges : List Edge) : List Edge :=
  ((edges.map endOf).eraseDups).flatMap fun id => edges.filter (endOf · == id)

def outEdges (g : Graph) (id : String) : List Edge :=
  grouped (·.target) (g.edges.filter (·.source == id))

def inEdges (g : Graph) (id : String) : List Edge :=
  grouped (·.source) (g.edges.filter (·.target == id))

def allEdges (g : Graph) : List Edge := g.vertices.flatMap fun v => g.outEdges v.id

def between (g : Graph) (source target : String) : List Edge :=
  g.edges.filter fun e => e.source == source && e.target == target

/-- Of several constraints the first is not looked at. -/
def relevant (constraints : List (String × Value)) : List (String × Value) :=
  match constraints with
  | _ :: second :: rest => second :: rest
  | few => few

def transitions (g : Graph) (source target : String) (constraints : List (String × Value)) :
    List Edge :=
  (g.between source target).filter fun e => (relevant constraints).all e.agrees

def only (source target : String) (edges : List Edge) : Except Error Edge :=
  match edges with
  | [] => .error (.unknownTransition source target)
  | [e] => .ok e
  | _ => .error (.ambiguousTransition source target)

def transition (g : Graph) (source target : String) (key : Value)
    (constraints : List (String × Value)) :
    Except Error Edge :=
  only source target
    (if key.isNull then g.transitions source target constraints
     else (g.between source target).filter (·.key == key))

def transitionAttributes (g : Graph) (name : String) : List (Edge × Value) :=
  g.allEdges.filterMap fun e => (Entries.getStr? e.attributes name).map fun v => (e, v)

/-- The first whole number, from the number of edges on, that is no key. -/
def freeKey (edges : List Edge) : Nat → Nat → Nat
  | 0, n => n
  | fuel + 1, n => if edges.any (·.key == .int n) then freeKey edges fuel (n + 1) else n

def addEdge (g : Graph) (source target : String) (key : Value) (attributes : Entries) : Graph :=
  let parallel := g.between source target
  let key := if key.isNull then .int (freeKey parallel parallel.length parallel.length) else key
  if parallel.any (·.key == key) then
    { g with
      edges := g.edges.map fun e =>
        if e.source == source && e.target == target && e.key == key then
          { e with attributes := Entries.insertAll e.attributes attributes }
        else e }
  else { g with edges := g.edges ++ [⟨source, target, key, attributes⟩] }

/-- Adds a transition, and the tasks at its ends if they are missing. -/
def addTransition (g : Graph) (source target : String) (key : Value) (attributes : Entries) :
    Graph :=
  ((g.addTask source []).addTask target []).addEdge source target key attributes

def updateTransition (g : Graph) (source target : String) (key : Value) (attributes : Entries) :
    Except Error Graph := do
  let e ← g.transition source target key []
  .ok (g.addEdge source target e.key attributes)

/-- Where a task goes on to, sorted by task. -/
def nextTransitions (g : Graph) (id : String) : List Edge := Edge.sortByTarget (g.outEdges id)

def prevTransitions (g : Graph) (id : String) : List Edge := g.inEdges id

/-! ### Roots and leaves -/

def sortVertices (vertices : List Vertex) : List Vertex :=
  vertices.mergeSort fun a b => Value.compareText a.id b.id != .gt

def roots (g : Graph) : List Vertex :=
  sortVertices (g.vertices.filter fun v => !g.edges.any (·.target == v.id))

def leaves (g : Graph) : List Vertex :=
  sortVertices (g.vertices.filter fun v => !g.edges.any (·.source == v.id))

/-! ### Barriers and retries -/

def barriers (g : Graph) : List Vertex :=
  g.vertices.filter fun v => ((Entries.getStr? v.attributes "barrier").getD .null).truthy

def setBarrier (g : Graph) (id : String) (value : Value) : Except Error Graph :=
  g.updateTask id [(.str "barrier", value)]

def barrier (g : Graph) (id : String) : Except Error Value := g.taskField id "barrier"

def hasBarrier (g : Graph) (id : String) : Except Error Bool := do
  let b ← g.barrier id
  .ok (!b.isNull && !(b == .str ""))

def retry (g : Graph) (id : String) : Except Error Value := g.taskField id "retry"

def hasRetry (g : Graph) (id : String) : Except Error Bool := do
  .ok ((← g.retry id).hasField "count")

end Graph

end Orchestration
