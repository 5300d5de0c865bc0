import Orchestration.Conductor.Persistence
import Orchestration.Conductor.Rerun
import Orchestration.Conductor.Update
import Orchestration.Expression.Engine
import Orchestration.Workload.Definition

/-!
Workflows that are conducted from beginning to end.
-/

namespace Orchestration.Workload

abbrev Host := String → Action → Status × Value

def host : Host := fun task a =>
  match a.item with
  | some _ => (.succeeded, a.input.field "message")
  | none => (.succeeded, .str ("result-" ++ task))

def failingAt (fails : String → Bool) : Host := fun task a =>
  if fails task then (.failed, .str "broken") else host task a

def carryItems (h : Host) (o : Offer) (done : List Value) : List Action → Conducting Unit
  | [] => return
  | a :: rest => do
    let (status, result) := h o.task a
    let index := Value.int (a.item.getD 0)
    let _ ← Conductor.update o.task o.route (.item index .running .null .null)
    let _ ← Conductor.update o.task o.route (.item index status result (.list (done ++ [result])))
    carryItems h o (done ++ [result]) rest

def carryOut (h : Host) (o : Offer) : Conducting Unit :=
  if o.items.isSome then carryItems h o [] o.actions
  else o.actions.forM fun a => do
    let (status, result) := h o.task a
    let _ ← Conductor.update o.task o.route (.action .running .null .null)
    let _ ← Conductor.update o.task o.route (.action status result .null)

def drive (h : Host) : Nat → Conducting Unit
  | 0 => return
  | rounds + 1 => do
    let offers ← Conductor.nextTasks
    if offers.isEmpty then return
    offers.forM (carryOut h)
    drive h rounds

def longest : Nat := 5000

def begin (definition : Value) : Except Error Conductor := do
  let c ← Conductor.make (← Catalog.native.instantiate definition) .null .null
  match (Conductor.requestStatus .running).run c with
  | (.ok (), c) => .ok c
  | (.error e, _) => .error e

def conducting {α : Type} (definition : Value) (act : Conducting α) : Except Error α := do
  (act.run (← begin definition)).1

def statusValue : Conducting Value := do return .str (← Conductor.getState).status.text

def toEnd (h : Host) : Conducting Conductor := do
  drive h longest
  Conductor.renderOutput
  get

def summary (c : Conductor) : Value :=
  .list [.str c.state.status.text, c.outputValue, .int c.state.sequence.length]

def sequential (n : Nat) : Except Error Value := do
  let first ← conducting (greetings n) (toEnd host)
  let second ← conducting (greetings (max 2 (n / 2))) (toEnd host)
  .ok (.list [summary first, summary second])

def joinSummary (c : Conductor) : Value :=
  .list [.str c.state.status.text, .int c.state.sequence.length, .int c.state.routes.length,
    texts (c.state.terminalEntries.map (·.2.task))]

def parallelJoin (width : Nat) : Except Error Value := do
  let first ← conducting (fan width) (toEnd host)
  let second ← conducting split (toEnd host)
  .ok (.list [joinSummary first, joinSummary second])

def withItems (n : Nat) : Except Error Value := do
  let c ← conducting (members n) (toEnd host)
  .ok (.list [.str c.state.status.text, .int c.state.sequence.length, c.outputValue])

/-- Drives a workflow that is written down and read again before each round. -/
def driveReloading (h : Host) : Nat → Conducting Unit
  | 0 => return
  | rounds + 1 => do
    Conductor.reload
    let offers ← Conductor.nextTasks
    if offers.isEmpty then return
    offers.forM (carryOut h)
    driveReloading h rounds

def roundTrip (n : Nat) : Except Error Value := do
  let parent := Value.fields [("parent", .fields [("run", .int 1)])]
  let c ← Conductor.make (← Catalog.native.instantiate (chain n)) parent .null
  let act : Conducting Value := do
    Conductor.requestStatus .running
    driveReloading host longest
    let context ← Conductor.workflowContext
    let c ← get
    return .list [.str c.state.status.text, context, c.parent, .int c.state.sequence.length]
  (act.run c).1

/-- A workflow that is paused before its tasks and then goes on. -/
def pause : Conducting (List Value) := do
  Conductor.requestStatus .paused
  let paused ← statusValue
  Conductor.requestStatus .resuming
  let c ← toEnd host
  return [paused, .str c.state.status.text]

def cancel : Conducting Value := do
  Conductor.requestStatus .canceled
  statusValue

/-- Tasks that are tried again, for a host for which all goes well and for one for which nothing
does. -/
def pauseCancelRetry (n : Nat) : Except Error Value := do
  let paused ← conducting (chain n) pause
  let canceled ← conducting (chain n) cancel
  let good ← conducting retries (toEnd host)
  let bad ← conducting retries (toEnd (failingAt fun _ => true))
  .ok (.list (paused ++ [canceled, .int good.state.sequence.length,
    .list [.str bad.state.status.text, .int bad.state.sequence.length]]))

/-- A workflow that fails at its last task, and is run again from there. -/
def rerun (n : Nat) : Except Error Value :=
  conducting (chain n) do
    let last := taskName (n - 1)
    drive (failingAt (· == last)) longest
    let failed ← statusValue
    Conductor.requestRerun []
    let resumed ← statusValue
    drive host longest
    let s ← Conductor.getState
    Conductor.requestRerun [⟨.str last, .int 0, false⟩]
    let again ← statusValue
    return .list [failed, resumed, .list [.str s.status.text, .int s.reruns.length], again]

end Orchestration.Workload
