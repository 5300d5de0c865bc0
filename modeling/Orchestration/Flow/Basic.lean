import Orchestration.Command
import Orchestration.Sorting
import Orchestration.Value.Order

/-!
The flow of a workflow: which task goes on to which.

A step has branches, and each branch has a condition and the tasks it goes on to. A step that joins
waits for the steps before it. A target that is no text names no task; it is refused where the step
is gone on from.
-/

namespace Orchestration

structure Branch where
  condition : Value
  targets : List String

structure Step where
  name : String
  /-- How many steps it waits for, or `null` if it does not join. -/
  join : Value
  /-- When and how often it is tried again, or `null`. -/
  retry : Value
  branches : List Branch
  /-- The targets that are no text, each with the number of its branch. -/
  odd : List (Nat × Value)

structure Flow where
  steps : List Step

/-- A way from one task to another: by which condition, and in which branch. -/
structure Link where
  task : String
  condition : Value
  branch : Nat

namespace Step

/-- A step for a command, which leads nowhere. -/
def ofCommand (name : String) : Step := ⟨name, .null, .null, [], []⟩

def isJoin (step : Step) : Bool := !step.join.isNull

def linksInOrder (step : Step) : List Link :=
  step.branches.zipIdx.flatMap fun (branch, i) => branch.targets.map fun target => ⟨target, branch.condition, i⟩

end Step

namespace Link

/-- Sorts by task; links to one task keep their order. -/
def sort (links : List Link) : List Link :=
  links.mergeSort fun a b => Value.compareText a.task b.task != .gt

end Link

namespace Step

/-- Where a step goes on to, sorted by task. -/
def links (step : Step) : List Link := Link.sort step.linksInOrder

/-- What a step goes on to that is no text, sorted. -/
def oddTargets (step : Step) : List Value :=
  (Sorting.sort Value.less (step.odd.map (·.2))).toOption.getD []

/-- Refuses a step that goes on to what is no text. -/
def refuseOdd (refusal : Value → Error) (step : Step) : Except Error Unit :=
  match step.oddTargets with
  | [] => .ok ()
  | v :: _ => .error (if v.hashable then refusal v else Value.unhashable v)

end Step

namespace Flow

def unknown (name : String) : Error := .refused .key (Text.quoted name)

/-- The error for a target that is no text, where names are put together. -/
def oddName (v : Value) : Error :=
  .broken .type ("can only concatenate str (not \"" ++ v.typeName ++ "\") to str")

/-- The error for a target that is no text, where tasks are looked up. -/
def oddTask (v : Value) : Error := .refused .key v.shown

def defines (flow : Flow) (name : String) : Bool := flow.steps.any (·.name == name)

/-- Whether a name can be gone on to: a task that is defined, or a command. -/
def has (flow : Flow) (name : String) : Bool := Command.isName name || flow.defines name

/-- The step of a name. The name of a command stands for the command, whatever is defined. -/
def step (flow : Flow) (name : String) : Except Error Step :=
  if Command.isName name then .ok (Step.ofCommand name)
  else
    match flow.steps.find? (·.name == name) with
    | some step => .ok step
    | none => .error (unknown name)

def nextTasks (flow : Flow) (name : String) : Except Error (List Link) := do
  .ok (← flow.step name).links

def linksOf (step : Step) : List Link := if Command.isName step.name then [] else step.links

/-- From where a task is reached, sorted by task. -/
def prevTasks (flow : Flow) (name : String) : List Link :=
  Link.sort (flow.steps.flatMap fun step =>
    ((linksOf step).filter (·.task == name)).map fun link => ⟨step.name, link.condition, link.branch⟩)

/-- The tasks to which nothing leads, sorted. -/
def startTasks (flow : Flow) : List String :=
  Value.sortTexts ((flow.steps.map (·.name)).filter fun name => (flow.prevTasks name).isEmpty)

def isJoin (flow : Flow) (name : String) : Except Error Bool := do .ok (← flow.step name).isJoin

/-- Whether a task is reached in more than one way and does not join them. -/
def isSplit (flow : Flow) (name : String) : Except Error Bool := do
  .ok (!(← flow.isJoin name) && (flow.prevTasks name).length > 1)

/-- More rounds than a walk through the flow can take that visits no task twice. -/
def rounds (flow : Flow) : Nat := flow.steps.length + 2

end Flow

end Orchestration
