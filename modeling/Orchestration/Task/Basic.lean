import Orchestration.Spec.Flow

/-!
Tasks: what is done, how often, and what follows.
-/

namespace Orchestration

/-- What a task publishes when it goes on, and where it goes. -/
structure Transition where
  publish : Value
  targets : Value

/-- Over what a task repeats itself, and how many of the items may be under way at a time. -/
inductive Repetition where
  | over (items concurrency : Value)
  /-- Something that gives no items. -/
  | unusable (v : Value)

structure Task where
  action : Value
  input : Value
  delay : Value
  join : Value
  repetition : Option Repetition
  transitions : List Transition

namespace Task

def repetitionOf (p : Property) : Except Error (Option Repetition) :=
  match p with
  | .spec s => do .ok (some (.over (← s.value "items") (← s.value "concurrency")))
  | .value .null => .ok none
  | other => .ok (some (.unusable other.raw))

def transitionOf (s : Spec) : Except Error Transition := do
  .ok ⟨← s.value "publish", ← s.value "do"⟩

def ofSpec (s : Spec) : Except Error Task := do
  .ok
    { action := ← s.value "action"
      input := ← s.value "input"
      delay := ← s.value "delay"
      join := ← s.value "join"
      repetition := ← repetitionOf (← s.property "with")
      transitions := ← (← s.transitions).mapM transitionOf }

end Task

namespace Spec

def taskMapping (workflow : Spec) : Except Error Spec := do
  match ← workflow.property "tasks" with
  | .spec tasks => .ok tasks
  | other => .error (noMember other.raw "get_task")

def taskSpec (workflow : Spec) (name : String) : Except Error Spec := do
  match ← (← workflow.taskMapping).task name with
  | .spec task => .ok task
  | other => .error (noMember other.raw "copy")

end Spec

end Orchestration
