import Orchestration.Value.Entries

/-!
Workflows of any size, by which the engine is measured.
-/

namespace Orchestration.Workload

def taskName (i : Nat) : String := "task" ++ toString (i + 1)

def texts (names : List String) : Value := .list (names.map Value.str)

def workflow (parts tasks : List (String × Value)) : Value :=
  .fields ([("version", .float 1.0)] ++ parts ++ [("tasks", .fields tasks)])

/-- A task that does nothing, with what else is said of it. -/
def task (parts : List (String × Value)) : Value := .fields (("action", .str "core.noop") :: parts)

def goTo (targets : List String) : String × Value :=
  ("next", .list [.fields [("do", texts targets)]])

def chain (n : Nat) : Value :=
  workflow [] ((List.range n).map fun i =>
    (taskName i, task (if i + 1 < n then [goTo [taskName (i + 1)]] else [])))

/-- Tasks that follow one another, and hand on what they have come to. -/
def greetings (n : Nat) : Value :=
  let step (i : Nat) : Value :=
    let target := if i + 1 < n then [("do", Value.str (taskName (i + 1)))] else []
    task [("next", .list [.fields ([("when", .str "<% succeeded() %>"), ("publish", .list [.fields
      [("greeting", .str "<% result() %>")]])] ++ target)])]
  workflow [("vars", .list [.fields [("greeting", .null)]]),
    ("output", .list [.fields [("greeting", .str "<% ctx().greeting %>")]])]
    ((List.range n).map fun i => (taskName i, step i))

def branchName (i : Nat) : String := "branch" ++ toString i

/-- A task that branches off, and a task at which the branches come together. -/
def fan (width : Nat) : Value :=
  let branches := (List.range width).map branchName
  workflow [] ([("start", task [goTo branches])] ++ branches.map (fun b => (b, task [goTo ["joined"]])) ++
    [("joined", task [("join", .str "all")])])

/-- A task that two tasks lead to, so that what follows is carried out twice. -/
def split : Value :=
  workflow [] [("task1", task [goTo ["task2", "task3"]]), ("task2", task [goTo ["task4"]]),
    ("task3", task [goTo ["task4"]]), ("task4", task [goTo ["task5", "task6"]]), ("task5", task [goTo ["task7"]]),
    ("task6", task [goTo ["task7"]]), ("task7", task [("join", .str "all")])]

def retries : Value :=
  workflow [("vars", .list [.fields [("count_val", .int 1)], .fields [("delay_val", .int 0)]])]
    [("task1", task [("retry", .fields [("when", .str "<% failed() %>"), ("count", .str "<% ctx().count_val %>"),
      ("delay", .str "<% ctx().delay_val %>")]), goTo ["task2"]]),
     ("task2", task [("retry", .fields [("count", .int 1)])])]

/-- A task with an item for each of some members, whose results are collected. -/
def members (n : Nat) : Value :=
  let names := (List.range n).map fun i => "member-" ++ toString i
  let collect := Value.fields [("when", .str "<% succeeded() %>"),
    ("publish", .list [.fields [("collected", .str "<% result() %>")]]), ("do", texts ["task2"])]
  let recover := Value.fields [("when", .str "<% failed() %>"), ("do", texts ["recover"])]
  workflow [("vars", .list [.fields [("members", texts names)], .fields [("collected", .null)]]),
    ("output", .list [.fields [("done", .str "<% ctx().collected %>")]])]
    [("task1", .fields [("with", .str "<% ctx().members %>"), ("action", .str "core.echo message=<% item() %>"),
      ("next", .list [collect, recover])]), ("task2", task []), ("recover", task [])]

/-- Tasks in which everything is wrong that an inspection can find. -/
def faulty (n : Nat) : Value :=
  let step (i : Nat) : String × Value :=
    let number := toString (i + 1)
    ("bad" ++ number, .fields [("action", .str "core.noop"),
      ("input", .fields [("x", .str ("<% ctx().undefined_" ++ number ++ " %>"))]),
      ("next", .list [.fields [("do", .str ("nosuch" ++ number))],
        .fields [("when", .str "<% 1 + %>"), ("do", .str "noop")]])])
  .fields [("version", .float 1.0), ("extraprop", .int 1),
    ("input", .list [.fields [("a", .str "<% ctx().not_yet %>")]]),
    ("tasks", .fields ((List.range n).map step ++ [("noop", .fields [("with", .str "<% list(1, 2) %>")]),
      ("fail", .fields [("action", .str "core.noop")])]))]

end Orchestration.Workload
