import Orchestration.Rehearsal.Basic

/-!
The verdict on a rehearsal: whether the workflow did what was expected.
-/

namespace Orchestration.Rehearsal

variable [Engine]

/-- A task as it is shown: the route is left out if it is the first. -/
def shownName (e : Entry) : Value :=
  .str (if e.route > 0 then State.taskKey e.task e.route else e.task)

/-- A task as it is expected: without a route it is on the first. -/
def expectedName (v : Value) : Except Error Value :=
  match v with
  | .str name => .ok (.str (if Text.contains name "__r" then name else State.taskKey name 0))
  | other => .error (Value.notIterable other)

def mismatch (what : String) (actual expected : String) : Error :=
  .rehearsal ("The actual " ++ what ++ " " ++ actual ++ " does not match expected " ++ expected ++ ".")

def quote (text : String) : String := "\"" ++ text ++ "\""

def demand (what : String) (actual expected : Value) (shownActual shownExpected : String) :
    Rehearsing Unit := do
  if !(actual == expected) then throw (mismatch what shownActual shownExpected)

def expectation (name : String) : Rehearsing Value := do ofExcept ((← get).test.spec.value name)

def taskNames (entries : List Entry) : Value :=
  .list (entries.map fun e => .str (State.taskKey e.task e.route))

def judgeSequence (s : State) : Rehearsing Unit := do
  debug "Comparing with expected task execution sequence."
  let expected ← expectation "expected_task_sequence"
  let names ← ofExcept ((← ofExcept (Schema.itemsOf expected)).mapM expectedName)
  demand "task sequence" (taskNames s.sequence) (.list names)
    (Value.list (s.sequence.map shownName)).shown expected.shown

def judgeRoutes (s : State) : Rehearsing Unit := do
  debug "Comparing with expected workflow route(s)."
  let expected ← expectation "expected_routes"
  demand "routes" s.routesValue expected s.routesValue.shown expected.shown

def judgeStatus (s : State) : Rehearsing Unit := do
  debug "Comparing with expected workflow status."
  let expected ← expectation "expected_workflow_status"
  demand "workflow status" s.status.toValue expected (quote s.status.text) (quote expected.text)

def judgeErrors (errors : List Value) : Rehearsing Unit := do
  match ← ofExcept ((← get).test.spec.property "expected_errors") with
  | .value .null => return
  | .spec expected =>
    debug "Comparing with expected workflow execution error(s)."
    demand "workflow errors" (.list errors) expected.raw (Value.list errors).shown expected.raw.shown
  | other =>
    debug "Comparing with expected workflow execution error(s)."
    throw (Value.noAttribute other.raw "spec")

def judgeOutput (output : Value) : Rehearsing Unit := do
  let expected ← expectation "expected_output"
  if !expected.isNull then
    debug "Comparing with expected workflow output."
    demand "workflow output" output expected output.shown expected.shown

def judgeEnds (s : State) : Rehearsing Unit := do
  let expected ← expectation "expected_term_tasks"
  if !expected.isNull then
    debug "Comparing with expected terminal task(s)."
    let entries := s.terminalEntries.map (·.2)
    let listed ← ofExcept (Schema.itemsOf expected)
    let names ← ofExcept (Value.sort (← ofExcept (listed.mapM expectedName)))
    let actual ← ofExcept (Value.sort (entries.map fun e => .str (State.taskKey e.task e.route)))
    let shown ← ofExcept (Value.sort (entries.map shownName))
    let shownExpected ← ofExcept (Value.sort listed)
    demand "terminal tasks" (.list actual) (.list names) (Value.list shown).shown (Value.list shownExpected).shown

def judge : Rehearsing Unit := do
  let c ← conduct get
  debug ("The workflow completed with status " ++ quote c.state.status.text ++ ".")
  debug ("The workflow output with " ++ quote c.outputValue.text ++ ".")
  if c.errors.isEmpty then debug "The workflow completed with no errors."
  else debug ("The workflow completed with errors. " ++ quote (Value.list c.errors).text)
  judgeSequence c.state
  judgeRoutes c.state
  judgeStatus c.state
  judgeErrors c.errors
  judgeOutput c.outputValue
  judgeEnds c.state

def rehearse : Rehearsing Unit := do
  match (← get).test.opening with
  | .fresh path _ => note .info ("Start test for workflow " ++ quote path ++ ".")
  | .again _ => pure ()
  checkInspection
  perform
  judge

end Orchestration.Rehearsal
