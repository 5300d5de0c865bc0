import Orchestration.Graph.Basic
import Orchestration.Value.Merge

/-!
Graphs as plain data.

The data lists the tasks, and for each task the edges that leave it, sorted by target. An edge that
is read keeps its target and its key among its attributes as well.
-/

namespace Orchestration.Graph

def vertexData (v : Vertex) : Value := .map (Entries.insertStr v.attributes "id" (.str v.id))

def edgeData (e : Edge) : Value :=
  .map (Entries.insertStr (Entries.insertStr e.attributes "id" (.str e.target)) "key" e.key)

def serialize (g : Graph) : Value :=
  .fields
    [("directed", .bool true),
     ("multigraph", .bool true),
     ("graph", .list (g.about.map fun (k, v) => .tuple [k, v])),
     ("nodes", .list (g.vertices.map vertexData)),
     ("adjacency", .list (g.vertices.map fun v => .list ((g.nextTransitions v.id).map edgeData)))]

def missing (key : String) : Error := .broken .key ("'" ++ key ++ "'")

def fieldOf (data : Value) (key : String) : Except Error Value :=
  match data with
  | .map entries =>
    match Entries.getStr? entries key with
    | some v => .ok v
    | none => .error (missing key)
  | _ => .error (.broken .type ("'" ++ data.typeName ++ "' object is not subscriptable"))

def listOf (v : Value) : Except Error (List Value) :=
  match v with
  | .list items => .ok items
  | _ => .error (.broken .type ("'" ++ v.typeName ++ "' object is not iterable"))

def entriesOf (v : Value) : Except Error Entries :=
  match v with
  | .map entries => .ok entries
  | _ => .error (Value.noAttribute v "copy")

def readAbout (v : Value) : Except Error Entries :=
  match v with
  | .map entries => .ok entries
  | .list items => do
    let pairs ← items.mapM fun item => match item with
      | .list [k, w] | .tuple [k, w] => Except.ok (k, w)
      | _ => Except.error (.broken .type "cannot convert dictionary update sequence element #0 to a sequence")
    .ok (Entries.ofList pairs)
  | _ => .error (.broken .type ("'" ++ v.typeName ++ "' object is not iterable"))

def readVertex (g : Graph) (data : Value) : Except Error (Graph × String) := do
  let entries ← entriesOf data
  let id ← fieldOf data "id"
  .ok (g.addTask id.text (Entries.eraseStr entries "id"), id.text)

def readEdge (g : Graph) (source : String) (data : Value) : Except Error Graph := do
  let entries ← entriesOf data
  let target ← fieldOf data "id"
  match Entries.getStr? entries "key" with
  | some key =>
    if key.isNull then .error (missing "None")
    else .ok (g.addTransition source target.text key entries)
  | none => .error (missing "None")

def readVertices : Graph → List Value → Except Error (Graph × List String)
  | g, [] => .ok (g, [])
  | g, data :: rest => do
    let (g, id) ← readVertex g data
    let (g, ids) ← readVertices g rest
    .ok (g, id :: ids)

def readEdges : Graph → List String → List Value → Except Error Graph
  | g, _, [] => .ok g
  | _, [], _ :: _ => .error (.broken .index "list index out of range")
  | g, id :: ids, data :: rest => do
    let g ← (← listOf data).foldlM (fun g e => readEdge g id e) g
    readEdges g ids rest

def deserialize (data : Value) : Except Error Graph := do
  let data := data.copy
  match data with
  | .map _ =>
    let about ← readAbout (← fieldOf data "graph")
    let (g, ids) ← readVertices empty (← listOf (← fieldOf data "nodes"))
    let g ← readEdges g ids (← listOf (← fieldOf data "adjacency"))
    .ok (if g.vertices.isEmpty then empty else { g with about := about })
  | _ => .error (Value.noAttribute data "get")

end Orchestration.Graph
