import Orchestration.Conductor.Output
import Orchestration.Graph.Persistence

/-!
The start of a conductor, and conductors as plain data.
-/

namespace Orchestration.Conductor

variable [Engine]

/-- A value, or an empty mapping for one that says nothing. -/
def orEmpty (v : Value) : Value := if v.truthy then v else Value.empty

def notSpec : Error := .refused .value "The value of \"spec\" is not type of Spec."

def ofValue (_ : Value) : Except Error Conductor := .error notSpec

def create (spec : Spec) (parent input : Value) : Conductor :=
  ⟨spec, orEmpty input, orEmpty parent, none, .empty, [], [], .null⟩

def mergeRendered (context : Node) (rendered : List (Value × Node)) : Except Error Node :=
  match context with
  | .map mark entries => .ok (.map mark ((Blend.mk entries []).absorb rendered).entries)
  | other =>
    if rendered.isEmpty then .ok other
    else .error (.broken .type ("'" ++ other.toValue.typeName ++ "' object does not support item assignment"))

def entriesOf (n : Node) : List (Value × Node) :=
  match n with
  | .map _ entries => entries
  | _ => []

/-- The context with which the workflow starts: that in which it was called, its input and its
variables. What cannot be rendered is left out and noted. -/
def startContext (c : Conductor) : Except Error (Node × List Error) := do
  if !c.spec.kind.methods.contains "render_input" then throw (c.spec.noProperty "render_input")
  let (context, nextMark) := (Node.ofValue c.parent.copy).stamp 1
  let input ← c.spec.renderInput c.input.copy context.toValue nextMark
  let context ← mergeRendered context (entriesOf input.context)
  let vars ← c.spec.renderVars context.toValue input.nextMark
  let context ← mergeRendered context vars.values
  return (context, input.errors ++ vars.errors)

def stageRoot (v : Vertex) : Conducting Unit := do
  let (contexts, s) := (← getState).share [0]
  let (prev, s) := s.share []
  modifyState fun _ => s.stage v.id 0 contexts prev true none

/-- Renders the input and the variables, and stages the tasks that start the workflow. If something
cannot be rendered the workflow fails. -/
def start : Conducting Unit := do
  let (context, errors) ← ofExcept (startContext (← get))
  if !errors.isEmpty then
    logErrors errors .nothing
    requestStatus .failed
  if !(← getState).status.isAbended then
    modifyState fun s => { s with contexts := s.contexts.push context, routes := s.routes ++ [[]] }
    (← graph).roots.forM stageRoot

def make (spec : Spec) (parent input : Value) : Except Error Conductor :=
  match start.run (create spec parent input) with
  | (.ok (), c) => .ok c
  | (.error e, _) => .error e

/-! ### Plain data -/

def serialize : Conducting Value := do
  let g ← graph
  let c ← get
  return .fields
    [("spec", c.spec.serialize),
     ("graph", g.serialize),
     ("input", c.input.copy),
     ("context", c.parent.copy),
     ("state", c.state.serialize),
     ("log", (Value.list c.log).copy),
     ("errors", (Value.list c.errors).copy),
     ("output", c.outputValue)]

/-- What a conductor is restored from. -/
structure Record where
  graph : Option Graph
  log : Value
  errors : Value
  state : Option State
  input : Value
  output : Value
  parent : Value

def wrongType (name type : String) : Error :=
  .refused .value ("The value of \"" ++ name ++ "\" is not type of " ++ type ++ ".")

def isMissingOrMap (v : Value) : Bool := v.isNull || v.isMap

def restore (c : Conductor) (r : Record) : Except Error Conductor :=
  match r.graph, r.state with
  | none, _ => .error (wrongType "graph" "WorkflowGraph")
  | some _, none => .error (wrongType "state" "WorkflowState")
  | some g, some s =>
    if !isMissingOrMap r.input then .error (wrongType "inputs" "dict")
    else if !isMissingOrMap r.output then .error (wrongType "outputs" "dict")
    else
      .ok
        { c with
          input := orEmpty r.input, parent := orEmpty r.parent, graph? := some g, state := s,
          log := State.readList r.log, errors := State.readList r.errors, output := r.output }

def fieldOf (data : Value) (key : String) : Except Error Value := Graph.fieldOf data key

def deserialize (data : Value) : Except Error Conductor := do
  let specData ← fieldOf data "spec"
  let catalog ← Catalog.find (← fieldOf specData "catalog")
  let spec ← catalog.deserialize specData
  let g ← Graph.deserialize (← fieldOf data "graph")
  let input ← fieldOf data "input"
  let parent ← fieldOf data "context"
  let state := State.deserialize (← fieldOf data "state")
  let log := (data.field? "log").getD (.list [])
  let errors ← fieldOf data "errors"
  let output ← fieldOf data "output"
  (create spec .null .null).restore ⟨some g, log.copy, errors.copy, some state, input.copy, output.copy, parent.copy⟩

def reload : Conducting Unit := do
  let c ← ofExcept (deserialize (← serialize))
  set c

end Orchestration.Conductor
