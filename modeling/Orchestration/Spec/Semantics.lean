import Orchestration.Spec.Finding
import Orchestration.Spec.Flow

/-!
Whether the tasks of a workflow make sense together.
-/

namespace Orchestration.Spec

def properties (s : Spec) : Except Error (List (String × Property)) := do
  let names := match s.kind.written.field "properties" with
    | .map entries => (Entries.keys entries).map Value.text
    | _ => []
  let written ← names.mapM fun name => do .ok (name, ← s.property name)
  let matched ← (patternsOf s.kind.written).mapM fun pattern => do
    let names ← (← s.keys).mapM Schema.keyText
    (names.filter (Schema.patternOf pattern).matchesSomewhere).mapM fun name => do .ok (name, ← s.property name)
  .ok (written ++ matched.flatten)

def noPlace : Error := Value.noAttribute .null "get"

def placeOf (parent : Option Place) : Except Error Place :=
  match parent with
  | some p => .ok p
  | none => .error noPlace

def taskFindings (parent : Option Place) (names : List String)
    (finding : Place → String → Finding) :
    Except Error (List Finding) :=
  names.mapM fun name => do .ok (finding (← placeOf parent) name)

def detectReserved (tasks : Spec) (parent : Option Place) : Except Error (List Finding) := do
  let names := (← tasks.keyed).map (·.1)
  taskFindings parent (names.filter Command.isName) fun place name =>
    .plain (place.entry name) ("The task name \"" ++ name ++ "\" is reserved with special function.")

def noStart : String :=
  "Unable to identify any tasks to start the workflow. If the workflow has a loop, please add a task that " ++
      "serves as an entry point (or lead) into the loop."

def detectStart (tasks : Spec) (parent : Option Place) : Except Error (List Finding) := do
  if (← tasks.flow).lacksStart then do .ok [.plain (← placeOf parent) noStart] else .ok []

def detectUndefined (tasks : Spec) (parent : Option Place) : Except Error (List Finding) := do
  let flow ← tasks.flow
  if flow.startTasks.isEmpty then .ok []
  else
    let place ← placeOf parent
    .ok ((← flow.undefinedTasks).map fun u =>
      let branch := (place.entry u.task).transition u.branch
      .plain ⟨branch.spec ++ ".do", branch.schema ++ ".properties.do"⟩ ("The task \"" ++ u.target ++ "\" is not defined."))

def unreachable (name : String) : String :=
  "The join task \"" ++ name ++ "\" is unreachable. A join task is determined to be unreachable if there are " ++
      "nested forks from multi-referenced tasks that join on the said task. This is ambiguous to the workflow engine " ++
      "because it does not know at which level should the join occurs."

def detectUnreachable (tasks : Spec) (parent : Option Place) : Except Error (List Finding) := do
  let flow ← tasks.flow
  if flow.startTasks.isEmpty then .ok []
  else
    let place ← placeOf parent
    .ok ((← flow.unreachableJoins).map fun name => .plain (place.entry name) (unreachable name))

def actionless (tasks : Spec) : Except Error (List String) := do
  let found ← (← tasks.keyed).mapM fun (name, task) => match task with
    | .spec task => do
      if task.hasItems && !(← task.value "action").truthy then Except.ok [name] else .ok []
    | other => Except.error (noMember other.raw "has_items")
  .ok found.flatten

def detectActionless (tasks : Spec) (parent : Option Place) : Except Error (List Finding) := do
  taskFindings parent (← tasks.actionless) fun place name =>
    .plain (place.entry name) "The action property is required for with items task."

def inspectTasks (tasks : Spec) (parent : Option Place) : Except Error (List Finding) := do
  let reserved ← tasks.detectReserved parent
  let start ← tasks.detectStart parent
  let undefined ← tasks.detectUndefined parent
  let unreachable ← tasks.detectUnreachable parent
  let actionless ← tasks.detectActionless parent
  .ok (reserved ++ start ++ undefined ++ unreachable ++ actionless)

abbrev Inspect := Spec → Option Place → Except Error (List Finding)

def inspectParts (inspect : Inspect) (part : Spec) (place : Place) (name : String) :
    Except Error (List Finding) := do
  match part.kind.shape with
  | .sequence => do
    let found ← part.items.zipIdx.mapM fun (item, i) => inspect item (some (place.item i))
    .ok found.flatten
  | .mapping => do
    let found ← (← part.keyed).mapM fun (k, p) => match p with
      | .spec s => inspect s (some (place.entry k))
      | other => .error (noMember other.raw name)
    .ok found.flatten
  | .plain => .ok []

def semanticsWithin : Nat → Spec → Option Place → Except Error (List Finding)
  | 0, _, _ => .error (.broken .recursion "too deep")
  | fuel + 1, s, parent =>
    if s.kind == .tasks then s.inspectTasks parent
    else do
      let found ← (← s.properties).mapM fun (name, p) => match p with
        | .spec part => do
          let place := Place.property parent name
          let whole ← semanticsWithin fuel part (some place)
          let parts ← inspectParts (semanticsWithin fuel) part place "inspect_semantics"
          .ok (whole ++ parts)
        | _ => .ok []
      .ok found.flatten

def inspectSemantics (s : Spec) (parent : Option Place) : Except Error (List Finding) :=
  semanticsWithin Kind.deepest s parent

end Orchestration.Spec
