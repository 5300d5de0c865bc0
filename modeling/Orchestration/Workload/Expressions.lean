import Orchestration.Expression.Basic
import Orchestration.Expression.Call
import Orchestration.Expression.Engine
import Orchestration.Workload.Definition

/-!
Expressions that are checked and evaluated, and functions that are called.
-/

namespace Orchestration.Workload

/-- The state of a workflow in which one task has succeeded. -/
def sampleState : Value :=
  .fields [("tasks", .fields [("task1__r0", .int 0)]), ("routes", .list [.list []]),
    ("sequence", .list [.fields [("id", .str "task1"), ("route", .int 0), ("status", .str "succeeded")]])]

def sampleContext : Value :=
  .fields [("name", .str "stan"), ("n", .int 7), ("items", .list [.int 1, .int 2, .int 3]),
    ("__current_task", .fields [("id", .str "task1"), ("route", .int 0), ("result", .int 42)]),
    ("__current_item", .fields [("x", .int 1)]), ("__state", sampleState)]

def samples : List String :=
  ["<% ctx().name %>", "<% ctx(name) %>", "<% ctx().n + 1 %>", "<% result() %>", "<% succeeded() %>",
   "<% failed() %>", "<% completed() %>", "<% task_status(task1) %>", "<% item(x) %>",
   "<% json('\x7b\"a\": 1\x7d') %>", "<% zip(list(1, 2), list(3, 4)) %>", "<% ctx().items.len() %>",
   "\x7b\x7b ctx().name \x7d\x7d", "\x7b\x7b ctx('n') + 1 \x7d\x7d", "\x7b\x7b result() \x7d\x7d",
   "\x7b\x7b succeeded() \x7d\x7d", "\x7b\x7b failed() \x7d\x7d", "\x7b\x7b completed() \x7d\x7d",
   "\x7b\x7b item('x') \x7d\x7d", "\x7b\x7b zip([1, 2], [3]) \x7d\x7d",
   "\x7b% if ctx().n > 3 %\x7dyes\x7b% endif %\x7d",
   "\x7b% raw %\x7d\x7b\x7b not_evaluated \x7d\x7d\x7b% endraw %\x7d",
   "hello \x7b\x7b ctx().name \x7d\x7d and \x7b\x7b ctx().n \x7d\x7d"]

def complaints (v : Value) : Value :=
  .fields [("errors", .list ((Expression.validate v).map Expression.Complaint.toValue))]

def usesOf (v : Value) : Except Error Value := do
  .ok (.list (← Value.sort ((Expression.uses v).map fun use =>
    .list [.str use.language.name, .str use.statement, .str use.name])))

def evaluated (v : Value) : Except Error Value := do
  .ok (← Expression.evaluate (Node.ofValue sampleContext) v).toValue

def sampleAnswers (v : Value) : Except Error (List Value) := do
  .ok [complaints v, ← evaluated v, ← usesOf v]

def failure (text : String) : Value :=
  match Expression.evaluate (Node.ofValue sampleContext) (.str text) with
  | .ok v => v.toValue
  | .error e => .str e.name

def findPattern : Language → String
  | .query => "<%.*?%>"
  | .template => "\x7b\x7b.*?\x7d\x7d"

def expressions (n : Nat) : Except Error Value := do
  let chosen := (List.range n).map fun i => Value.str ((samples[i % samples.length]?).getD "")
  let perSample ← chosen.mapM sampleAnswers
  let nested := Value.fields [("k", .list [.str "<% ctx().n %>", .int 1])]
  let named := Value.fields [("k", .list [.str "<% ctx().name %>"])]
  let wrong := ["<% 1 + %>", "\x7b\x7b ctx( \x7d\x7d", "<% foo %> \x7b\x7b bar \x7d\x7d"].map fun text =>
    complaints (.str text)
  .ok (.list (perSample.flatten ++ [← evaluated nested, complaints nested, ← usesOf named] ++ wrong ++
    [failure "<% ctx().nosuch %>", failure "\x7b\x7b ctx().nosuch \x7d\x7d",
     .bool (Expression.hasExpressions "<% 1 %>"),
     .fields (Language.all.map fun l => (l.name, .str (findPattern l))), .str Language.query.name]))

/-! ### Functions -/

def call (name : String) (arguments : List Value) : Except Error Value :=
  Functions.onValues name arguments []

def refused (word : String) (x : Except Error Value) : Value :=
  match x with
  | .ok v => v
  | .error _ => .str word

def statusAt (i : Nat) : String := ((["succeeded", "failed", "running"][i % 3]?).getD "")

/-- A state with a task that is done and one that is at any status. -/
def stateWith (status : String) : Value :=
  let entry (id status : String) : Value :=
    .fields [("id", .str id), ("route", .int 0), ("status", .str status)]
  .fields [("tasks", .fields [("done__r0", .int 0), ("t__r0", .int 1)]), ("routes", .list [.list []]),
    ("sequence", .list [entry "done" "succeeded", entry "t" status])]

def functionAnswers (i : Nat) : Except Error (List Value) := do
  let data := [("a", Value.int i), ("b", .int (2 * i))]
  let current :=
    ("__current_task", Value.fields [("id", .str "t"), ("route", .int 0), ("result", .int i)])
  let state := ("__state", stateWith (statusAt i))
  let context := Value.fields [("__vars", .fields (data ++ [state])), current, state]
  let item := Value.fields [("__current_item", .fields [("key", .int i)])]
  let known ← ["\x7b\"x\": 1\x7d", "\x7b\"y\": 2\x7d"].mapM fun text => call "json" [.str text]
  let statuses ← ["done", "nosuch", "none"].mapM fun task => call "task_status" [context, .str task]
  let judgements ← ["succeeded", "failed", "completed", "result"].mapM fun name => call name [context]
  .ok ([← call "ctx" [context], ← call "ctx" [context, .str "a"],
    refused "undef" (call "ctx" [context, .str "nosuch"]), refused "priv" (call "ctx" [context, .str "__state"])] ++
    known ++ [← call "zip" [.list [.int 1, .int 2], .list [.int 3, .int 4]], ← call "json" [.str "[1, 2]"]] ++
    statuses ++ judgements ++ [← call "item" [item], ← call "item" [item, .str "key"]])

def functions (n : Nat) : Except Error Value := do
  .ok (.list ((← (List.range n).mapM functionAnswers).flatten ++ [texts Functions.names]))

end Orchestration.Workload
