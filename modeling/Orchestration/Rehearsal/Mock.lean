import Orchestration.Files
import Orchestration.Json.Reader
import Orchestration.Spec.Flow
import Orchestration.Task.Basic

/-!
Mocked actions: what actions are said to have come to.
-/

namespace Orchestration

structure Mock where
  spec : Spec
  task : Value
  /-- The entry of the sequence for which the mock is meant. -/
  entry : Value
  item : Value
  status : Value
  result : Value
  path : Value
  /-- The first time for which the mock is meant, how many times it is used, and how many times it
  was. -/
  first : Value
  times : Value
  position : Value

namespace Mock

def ofSpec (s : Spec) : Except Error Mock := do
  .ok
    { spec := s
      task := ← s.value "task_id"
      entry := ← s.value "seq_id"
      item := ← s.value "item_id"
      status := ← s.value "status"
      result := ← s.value "result"
      path := ← s.value "result_path"
      first := ← s.value "iter_id"
      times := ← s.value "num_iter"
      position := ← s.value "iter_pos" }

def isLeft (m : Mock) : Except Error Bool := do
  let last ← Value.sub (← Value.add m.first m.times) (.int 1)
  Value.compares .less m.position last

def use (m : Mock) : Except Error Mock := do
  .ok { m with position := ← Value.add m.position (.int 1) }

def allOf (test : Spec) : Except Error (List Mock) := do
  match ← test.property "mock_action_executions" with
  | .spec mocks => mocks.items.mapM ofSpec
  | _ => .ok []

/-- Keeps what agrees with a value, if there is a value. -/
def narrow (mocks : List (Nat × Mock)) (pick : Mock → Value) (wanted : Value) : List (Nat × Mock) :=
  if wanted.isNull then mocks else mocks.filter fun (_, m) => pick m == wanted

/-- The mock to use for a task, and its place: the first that is left for the task, the entry and
the item. One that is meant for an entry is only used for that entry. -/
def find? (mocks : List Mock) (task item entry : Value) : Except Error (Option (Nat × Mock)) := do
  let numbered := mocks.zipIdx.map fun (m, i) => (i, m)
  let left ← (numbered.filter fun (_, m) => m.task == task).filterM fun (_, m) => m.isLeft
  match narrow (narrow left (·.entry) entry) (·.item) item with
  | [] => .ok none
  | (i, m) :: _ => .ok (if !m.entry.isNull && entry.isNull then none else some (i, m))

def noItem (task : Value) : Error :=
  .rehearsal ("Mock action execution for with items task \"" ++ task.text ++ "\" is misssing \"item_id\".")

def noResult (path : Value) : Error :=
  .rehearsal ("The result path \"" ++ path.text ++ "\" for the mock action execution does not exist.")

def readResult (path text : String) : Except Error Value :=
  match Files.ending path with
  | ".json" =>
    match Json.readOr text with
    | .ok v => .ok v
    | .error message => .error (.broken .json message)
  | ".yml" | ".yaml" =>
    match Document.read .lenient text with
    | .ok v => .ok v
    | .error failure => .error failure.toError
  | _ => .ok (.str text)

/-- Checks a mock against the tasks of a workflow, and reads its result if it is in a file. -/
def prepare (files : Files) (workflow : Spec) (m : Mock) : Except Error Mock := do
  let tasks ← workflow.taskMapping
  if !tasks.hasTask m.task.text then throw (.unknownTask m.task.text)
  if (← workflow.taskSpec m.task.text).hasItems && m.item.isNull then throw (noItem m.task)
  if !m.path.truthy then return m
  if !files.isFile m.path.text then throw (noResult m.path)
  return { m with result := ← readResult m.path.text (← files.read m.path.text) }

end Mock

end Orchestration
