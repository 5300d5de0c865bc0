import Orchestration.Flow.Basic
import Orchestration.Worklist

/-!
Cycles in a flow.
-/

namespace Orchestration

/-- How far the search for a way back has come. -/
structure Flow.Return where
  visited : List String
  found : Bool

/-- What comes behind a step: the tasks it goes on to, or else what is no text. -/
def Step.onward (step : Step) : List (String ⊕ Value) :=
  step.links.map (fun link => .inl link.task) ++ step.oddTargets.map .inr

namespace Flow

/-- Looks at one target on the way. After the way back is found nothing more is looked at. -/
def seekReturn (flow : Flow) (origin : String) :
    Worklist.Visit Return (String ⊕ Value) := fun state target =>
  if state.found then .ok (state, [])
  else
    match target with
    | .inr odd => .error (if odd.hashable then oddTask odd else Value.unhashable odd)
    | .inl name =>
      if name == origin then .ok ({ state with found := true }, [])
      else if state.visited.contains name then .ok (state, [])
      else do
        let step ← flow.step name
        .ok ({ state with visited := name :: state.visited }, step.onward)

def inCycle (flow : Flow) (name : String) : Except Error Bool := do
  let step ← flow.step name
  let state ← Worklist.run (flow.seekReturn name) flow.rounds ⟨[], false⟩ step.onward
  .ok state.found

def anyInCycle (flow : Flow) : List String → Except Error Bool
  | [] => .ok false
  | name :: rest => do if ← flow.inCycle name then .ok true else flow.anyInCycle rest

def hasCycles (flow : Flow) : Except Error Bool := flow.anyInCycle (flow.steps.map (·.name))

end Flow

end Orchestration
