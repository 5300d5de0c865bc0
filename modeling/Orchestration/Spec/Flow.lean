import Orchestration.Flow.Fault
import Orchestration.Spec.Property

/-!
The flow that the tasks of a workflow describe.
-/

namespace Orchestration.Spec

def notIterableObject (v : Value) : Error :=
  .broken .type ("'" ++ v.typeName ++ "' object is not iterable")

/-- What a transition goes on to, as it is written: names in one line, or a list. -/
def targets (transition : Spec) : Except Error (List Value) := do
  match ← transition.value "do" with
  | .str text => .ok ((Text.splitText "," text).map fun name => .str (Text.trim name))
  | .list items | .tuple items => .ok items
  | .map entries => .ok (Entries.keys entries)
  | v => .error (notIterableObject v)

def transitions (task : Spec) : Except Error (List Spec) := do
  match ← task.property "next" with
  | .spec next => .ok next.items
  | _ => .ok []

def condition (transition : Spec) : Except Error Value := do
  let v ← transition.value "when"
  .ok (if v.truthy then v else .null)

/-- A branch as it is written, where a target need not be text. -/
structure Written where
  condition : Value
  targets : List Value

def read (transition : Spec) : Except Error Written := do
  .ok ⟨← transition.condition, ← transition.targets⟩

/-- Only text can name a task. -/
def Written.branch (written : Written) : Branch :=
  ⟨written.condition, written.targets.filterMap Value.asStr?⟩

def Written.odd (written : Written) : List Value := written.targets.filter (·.asStr?.isNone)

def oddOf (branches : List Written) : List (Nat × Value) :=
  branches.zipIdx.flatMap fun (written, i) => written.odd.map fun v => (i, v)

/-- Targets are put in order. Text always can be; text and something else cannot. -/
def checkOrder (branches : List Written) : Except Error Unit := do
  if !(oddOf branches).isEmpty then
    let _ ← Sorting.sort Value.less (branches.flatMap (·.targets))

def noMember (v : Value) (name : String) : Error := Value.noAttribute v name

/-- When a task is tried again, how often, and after which time. -/
def retryPolicy (task : Spec) : Value :=
  match task.property "retry" with
  | .ok (.spec retry) =>
    .fields (["when", "count", "delay"].map fun name => (name, retry.valueOrNull name))
  | _ => .null

def toStep (name : String) (task : Property) : Except Error Step := do
  match task with
  | .spec task => do
    let branches ← (← task.transitions).mapM read
    checkOrder branches
    .ok ⟨name, task.valueOrNull "join", task.retryPolicy, branches.map (·.branch), oddOf branches⟩
  | other => .error (noMember other.raw "next")

def flow (tasks : Spec) : Except Error Flow := do
  let steps ← (← tasks.keyed).mapM fun (name, task) => toStep name task
  .ok ⟨steps⟩

/-- A task by its name. The name of a command stands for a task that does nothing. -/
def task (tasks : Spec) (name : String) : Except Error Property :=
  if Command.isName name then do .ok (.spec (← make .task (.fields [("name", .str name)])))
  else
    match tasks.raw with
    | .map entries =>
      if Entries.hasStr entries name then tasks.property name
      else .error (.refused .key (Text.quoted name))
    | _ => .error (Value.noAttribute tasks.raw "keys")

def hasTask (tasks : Spec) (name : String) : Bool := Command.isName name || tasks.raw.hasField name

def hasItems (task : Spec) : Bool :=
  match task.property "with" with
  | .ok (.value .null) => false
  | .ok _ => true
  | .error _ => false

end Orchestration.Spec
