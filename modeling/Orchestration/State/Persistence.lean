import Orchestration.Event.Basic
import Orchestration.State.Basic

/-!
The state of a workflow as plain data.

What several entries hold is written out for each of them, and is no longer shared when it is read.
-/

namespace Orchestration

namespace State

def indicesValue (indices : List Nat) : Value := .list (indices.map fun (i : Nat) => .int i)

def linksValue (links : List (String × Nat)) : Value :=
  .fields (links.map fun (name, i) => (name, .int i))

def flag (name : String) (holds : Bool) : List (String × Value) :=
  if holds then [(name, .bool true)] else []

def itemValue (item : Status) : Value := .fields [("status", item.toValue)]

end State

namespace Staged

def toValue (t : Staged) : Value :=
  .fields
    ([("id", .str t.task),
      ("ctxs", .fields [("in", State.indicesValue t.contexts.value)]),
      ("route", .int t.route),
      ("prev", State.linksValue t.prev.value),
      ("ready", .bool t.ready)] ++
     (t.retry.map fun r => ("retry", r.value)).toList ++
     (t.items.map fun items => ("items", Value.list (items.map State.itemValue))).toList ++
     State.flag "run_on_fail" t.runOnFail ++
     State.flag "completed" t.completed)

end Staged

namespace Entry

def toValue (e : Entry) : Value :=
  let out := if e.out.isEmpty then [] else [("out", State.linksValue e.out)]
  .fields
    ([("id", .str e.task),
      ("route", .int e.route),
      ("ctxs", .fields ([("in", State.indicesValue e.contexts.value)] ++ out)),
      ("prev", State.linksValue e.prev.value),
      ("next", .fields (e.next.map fun (name, taken) => (name, .bool taken)))] ++
     (e.retry.map fun r => ("retry", r.value)).toList ++
     (if e.status = .missing then [] else [("status", e.status.toValue)]) ++
     State.flag "term" e.terminal)

end Entry

namespace State

def contextsValue (s : State) : Value := .list s.contexts.toValues

def routesValue (s : State) : Value := .list (s.routes.map fun r => .list (r.map Value.str))

def sequenceValue (s : State) : Value := .list (s.sequence.map Entry.toValue)

def stagedValue (s : State) : Value := .list (s.staged.map Staged.toValue)

def tasksValue (s : State) : Value := linksValue s.tasks

def rerunsValue (s : State) : Value := .list (s.reruns.map indicesValue)

def serialize (s : State) : Value :=
  .fields
    ([("contexts", s.contextsValue.copy),
      ("routes", s.routesValue),
      ("sequence", s.sequenceValue.copy),
      ("staged", s.stagedValue.copy),
      ("status", s.status.toValue),
      ("tasks", s.tasksValue)] ++
     (if s.reruns.isEmpty then [] else [("reruns", s.rerunsValue)]))

/-! ### Reading -/

def readList (v : Value) : List Value :=
  match v with
  | .list items | .tuple items => items
  | _ => []

def readEntries (v : Value) : Entries :=
  match v with
  | .map entries => entries
  | _ => []

def readNat (v : Value) : Nat := (v.asInt?.map Int.toNat).getD 0

def readIndices (v : Value) : List Nat := (readList v).map readNat

def readLinks (v : Value) : List (String × Nat) :=
  (readEntries v).map fun (k, i) => (k.text, readNat i)

def readStatus (v : Value) : Status :=
  match v with
  | .null => .missing
  | v => .ofText v.text

/-- Something that is read is held by nothing else. -/
def readShared {α : Type} (v : α) : StateM Nat (Shared α) := do
  let mark ← get
  set (mark + 1)
  return ⟨mark, v⟩

def readRetry (v : Option Value) : StateM Nat (Option (Shared Value)) :=
  match v with
  | some retry => do return some (← readShared retry)
  | none => return none

def readStaged (v : Value) : StateM Nat Staged := do
  let contexts ← readShared (readIndices ((v.field "ctxs").field "in"))
  let prev ← readShared (readLinks (v.field "prev"))
  let retry ← readRetry (v.field? "retry")
  pure
    { task := (v.field "id").text
      route := readNat (v.field "route")
      contexts := contexts
      prev := prev
      ready := (v.field "ready").truthy
      retry := retry
      items := (v.field? "items").map fun items => (readList items).map fun item => readStatus (item.field "status")
      completed := (v.field "completed").truthy
      runOnFail := (v.field "run_on_fail").truthy }

def readEntry (v : Value) : StateM Nat Entry := do
  let contexts ← readShared (readIndices ((v.field "ctxs").field "in"))
  let prev ← readShared (readLinks (v.field "prev"))
  let retry ← readRetry (v.field? "retry")
  pure
    { task := (v.field "id").text
      route := readNat (v.field "route")
      contexts := contexts
      out := readLinks ((v.field "ctxs").field "out")
      prev := prev
      next := (readEntries (v.field "next")).map fun (k, taken) => (k.text, taken.truthy)
      retry := retry
      status := readStatus (v.field "status")
      terminal := (v.field "term").truthy }

def deserialize (data : Value) : State :=
  let data := data.copy
  let read : StateM Nat (List Entry × List Staged) := do
    let sequence ← (readList (data.field "sequence")).mapM readEntry
    let staged ← (readList (data.field "staged")).mapM readStaged
    return (sequence, staged)
  let ((sequence, staged), nextMark) := read.run 1
  { contexts := .ofValues (readList (data.field "contexts"))
    routes := (readList (data.field "routes")).map fun r => (readList r).map Value.text
    sequence := sequence
    staged := staged
    status := readStatus ((data.field? "status").getD (.str Status.unset.text))
    tasks := readLinks (data.field "tasks")
    reruns := (readList (data.field "reruns")).map readIndices
    nextMark := nextMark }

end State

end Orchestration
