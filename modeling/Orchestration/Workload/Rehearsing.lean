import Orchestration.Expression.Engine
import Orchestration.Json.Writer
import Orchestration.Rehearsal.Verdict
import Orchestration.Value.Sorted
import Orchestration.Workload.Definition

/-!
Workflows that are rehearsed.
-/

namespace Orchestration.Workload

def base : String := "/workload"

/-- A directory with a workflow and the result of its first task. -/
def directory (n : Nat) : Files :=
  .ofTexts base [("wf.yaml", Json.write Json.oneLine (greetings n).sortKeys), ("result.txt", "loaded-from-file")]

/-- A test in which the result of the first task is in a file. -/
def testOf (n : Nat) (expectations : List (String × Value)) : Value :=
  let names := (List.range n).map taskName
  let mock (i : Nat) : Value :=
    let result := if i = 0 then ("result_path", Value.str "result.txt") else ("result", .str ("r" ++ toString (i + 1)))
    .fields [("task_id", .str (taskName i)), result]
  .fields ([("workflow", .str "wf.yaml"), ("expected_task_sequence", texts (names ++ ["continue"])),
    ("mock_action_executions", .list ((List.range n).map mock))] ++ expectations)

def cut (size : Nat) (text : String) : Value := .str (String.ofList (text.toList.take size))

/-- The first characters of what is wrong with a rehearsal, and the conductor it leaves. -/
def rehearsed (n size : Nat) (expectations : List (String × Value)) :
    Except Error (Value × Option Conductor) := do
  let r ← Rehearsal.load (directory n) (testOf n expectations) .null (.str base)
  let (result, after) := Rehearsal.rehearse.run r
  let verdict := match result with
    | .ok () => Value.null
    | .error e => cut size e.message
  .ok (verdict, after.conductor)

def loadFailure (fixture path base : Value) : Value :=
  match Rehearsal.load .none fixture path base with
  | .ok _ => .null
  | .error e => .str e.name

def rehearsals (n : Nat) : Except Error Value := do
  let last := ("expected_output", Value.fields [("greeting", .str ("r" ++ toString n))])
  let (first, conductor) ← rehearsed n 40 [last, ("expected_term_tasks", texts [taskName (n - 1)])]
  let (second, _) ← rehearsed n 30
    [("expected_errors", .list [.fields [("type", .str "error"), ("message", .str "x")]])]
  let about := match conductor with
    | some c => [Value.str c.state.status.text, c.outputValue]
    | none => []
  let failures := [loadFailure .null .null .null, loadFailure (.fields [("a", .int 1)]) (.str "a") .null,
    loadFailure (.fields [("a", .int 1)]) .null (.str "/nosuch"), loadFailure (.str "text") .null .null]
  .ok (.list ([first] ++ about ++ [second] ++ failures))

end Orchestration.Workload
