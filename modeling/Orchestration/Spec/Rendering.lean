import Orchestration.Expression.Rendering
import Orchestration.Spec.Property

/-!
The input, the variables and the output of a workflow.
-/

namespace Orchestration.Spec

variable [Engine]

def listed (workflow : Spec) (name : String) : Except Error (List Value) := do
  let v ← workflow.value name
  if v.truthy then Schema.itemsOf v else .ok []

/-- An input: its name, and what it is when it is not given. -/
def inputOf (v : Value) : Except Error (Value × Value) :=
  match v with
  | .map _ => Rendering.entryOf v
  | _ => .ok (v, .null)

def givenInput (given name fallback : Value) : Except Error Value :=
  match given with
  | .map entries =>
    if name.hashable then .ok ((Entries.get? entries name).getD fallback)
    else .error name.unhashable
  | _ => .error (Value.noAttribute given "get")

def renderInput (workflow : Spec) (given context : Value) (nextMark : Nat) :
    Except Error Rendering := do
  let start := Rendering.start (if context.truthy then context else Value.empty) nextMark
  (← workflow.listed "input").foldlM (fun r v => do
    let (name, fallback) ← inputOf v
    r.assign name (← givenInput given name fallback)) start

def renderVars (workflow : Spec) (context : Value) (nextMark : Nat) : Except Error Rendering := do
  (Rendering.start context nextMark).assignAll (← workflow.listed "vars")

def renderOutput (workflow : Spec) (context : Value) : Except Error Rendering := do
  (Rendering.start context 1).assignAll (← workflow.listed "output")

end Orchestration.Spec
