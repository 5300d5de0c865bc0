import Orchestration.Conductor.Rerun
import Orchestration.Rehearsal.Case

/-!
Rehearsals: a workflow is conducted with mocked actions.

All tasks that can be started are started, and then all of them are completed, in rounds. Between
two rounds the conductor is written down and read again.
-/

namespace Orchestration

variable [Engine]

inductive LogLevel where
  | debug
  | info
  | error
  deriving DecidableEq, Repr

namespace LogLevel

def name : LogLevel → String
  | .debug => "DEBUG"
  | .info => "INFO"
  | .error => "ERROR"

end LogLevel

structure LogLine where
  level : LogLevel
  text : String

namespace LogLine

def line (l : LogLine) : String := l.level.name ++ " - " ++ l.text

end LogLine

structure Rehearsal where
  test : TestCase
  workflow : Spec
  conductor : Option Conductor
  mocks : List Mock
  results : List (String × List Value)
  inspection : List (String × List Finding)
  log : List LogLine

abbrev Rehearsing := ExceptT Error (StateM Rehearsal)

namespace Rehearsal

def noSession : Error := .rehearsal "The session object is not provided."

def wrongSession : Error :=
  .rehearsal "The session object is not type of WorkflowTestCase or WorkflowRerunTestCase."

def refuse (session : Value) : Error := if session.truthy then wrongSession else noSession

/-- A rehearsal takes a test, and no plain value. -/
def ofValue (session : Value) : Except Error Rehearsal := .error (refuse session)

def ofTest (files : Files) (test : TestCase) : Except Error Rehearsal := do
  let (workflow, conductor) ← match test.opening with
    | .fresh _ definition => do pure (← Catalog.native.instantiate (.str definition), none)
    | .again conductor => pure (conductor.spec, some conductor)
  let mocks ← (← Mock.allOf test.spec).mapM (Mock.prepare files workflow)
  .ok ⟨test, workflow, conductor, mocks, [], [], []⟩

def load (files : Files) (fixture path base : Value) : Except Error Rehearsal := do
  ofTest files (← TestCase.load files fixture path base)

def ofExcept {α : Type} (x : Except Error α) : Rehearsing α :=
  match x with
  | .ok a => pure a
  | .error e => throw e

def note (level : LogLevel) (text : String) : Rehearsing Unit :=
  modify fun r => { r with log := r.log ++ [⟨level, text⟩] }

def debug (text : String) : Rehearsing Unit := note .debug text

def noConductor : Error :=
  .broken .noAttribute "'NoneType' object has no attribute 'get_next_tasks'"

def conduct {α : Type} (act : Conducting α) : Rehearsing α := do
  match (← get).conductor with
  | none => throw noConductor
  | some c =>
    let (result, c) := act.run c
    modify fun r => { r with conductor := some c }
    ofExcept result

/-! ### Steps -/

/-- Nothing may be wrong with the workflow; tests that expect something to be wrong with it do not
hold. -/
def checkInspection : Rehearsing Unit := do
  let r ← get
  let found ← ofExcept (r.workflow.inspect .null)
  modify fun r => { r with inspection := found }
  let expected ← ofExcept (r.test.spec.property "expected_inspection_errors")
  if !found.isEmpty || expected.truthy then
    throw (.broken .assertion ((Spec.inspectionValue found).shown ++ " != " ++ expected.raw.shown))

def rerunRequests (test : Spec) : Except Error (List Rerun) := do
  match ← test.property "rerun_tasks" with
  | .spec requests => requests.items.mapM Rerun.ofSpec
  | _ => .ok []

def begin : Rehearsing Unit := do
  let r ← get
  match r.test.opening with
  | .fresh _ _ =>
    let input ← ofExcept (r.test.spec.value "inputs")
    modify fun r => { r with conductor := some (Conductor.create r.workflow .null input) }
    conduct Conductor.start
    conduct (Conductor.requestStatus .running)
  | .again _ =>
    let requests ← ofExcept (rerunRequests r.test.spec)
    conduct (Conductor.requestRerun requests)

def nameOf (o : Offer) : String := State.taskKey o.task o.route

def statusNote (name status : String) : String :=
  "Task \"" ++ name ++ "\" is set to \"" ++ status ++ "\"."

def launch (o : Offer) : Rehearsing (Offer × Nat) := do
  debug (statusNote (nameOf o) Status.running.text)
  let _ ← conduct (Conductor.update o.task o.route (.action .running .null .null))
  let s ← conduct Conductor.getState
  return (o, s.sequence.length - 1)

/-- What the action of a task has come to. Without a mock it has succeeded. -/
structure Outcome where
  status : Status
  result : Value
  item : Option Nat

def outcomeOf (m : Mock) : Except Error Outcome := do
  .ok ⟨← Status.read m.status, m.result, (m.item.asInt?.map Int.toNat)⟩

def outcome (task : String) (entry : Nat) : Rehearsing Outcome := do
  let mocks := (← get).mocks
  let forEntry ← ofExcept (Mock.find? mocks (.str task) .null (.int entry))
  let found ← match forEntry with
    | some found => pure (some found)
    | none => ofExcept (Mock.find? mocks (.str task) .null .null)
  match found with
  | none => return ⟨.succeeded, .null, none⟩
  | some (i, m) =>
    let used ← ofExcept m.use
    modify fun r => { r with mocks := r.mocks.set i used }
    ofExcept (outcomeOf used)

def placeResult (results : List Value) (item : Nat) (result : Value) : List Value :=
  (results ++ List.replicate (item + 1 - results.length) Value.null).set item result

def taskEvent (o : Offer) (found : Outcome) : Rehearsing Event := do
  debug ("Applying action execution with \"" ++ found.status.text ++ "\" status to task \"" ++ nameOf o ++ "\".")
  return .action found.status found.result .null

def itemEvent (o : Offer) (found : Outcome) : Rehearsing Event := do
  let before := ((← get).results.lookup o.task).getD []
  let item := found.item.getD before.length
  let results := placeResult before item found.result
  modify fun r => { r with results := putNamed r.results o.task results }
  debug ("Applying action execution with \"" ++ found.status.text ++ "\" status to item \"" ++ toString item ++
    "\" of task \"" ++ nameOf o ++ "\".")
  return .item (.int item) found.status found.result (.list results)

def complete (o : Offer) (entry : Nat) : Rehearsing Unit := do
  let spec ← ofExcept ((← get).workflow.taskSpec o.task)
  let found ← outcome o.task entry
  let e ← if spec.hasItems then itemEvent o found else taskEvent o found
  let _ ← conduct (Conductor.update o.task o.route e)
  match (← conduct Conductor.getState).latest? o.task o.route with
  | none => throw (.broken .key (Text.quoted (nameOf o)))
  | some e =>
    debug (statusNote (nameOf o) (if e.status = .missing then "unknown" else e.status.text))

/-- One round: all tasks are started, all are completed, and the next tasks are found. -/
def round (offers : List Offer) : Rehearsing (List Offer) := do
  conduct Conductor.reload
  let launched ← offers.mapM launch
  launched.forM fun (o, entry) => complete o entry
  let next ← conduct Conductor.nextTasks
  next.forM fun o => debug ("Task \"" ++ nameOf o ++ "\" is identified to run next.")
  let _ ← conduct Conductor.serialize
  return next

def rounds : Nat → List Offer → Rehearsing Unit
  | _, [] => return
  | 0, _ :: _ => throw (.broken .recursion "maximum recursion depth exceeded")
  | fuel + 1, o :: rest => do rounds fuel (← round (o :: rest))

def longest : Nat := 100000

def perform : Rehearsing Unit := do
  begin
  let first ← conduct Conductor.nextTasks
  let _ ← conduct Conductor.serialize
  rounds longest first
  if (← conduct Conductor.getState).status.isCompleted then conduct Conductor.renderOutput

end Rehearsal

end Orchestration
