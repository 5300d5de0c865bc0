import Orchestration.Conductor.Persistence
import Orchestration.Rehearsal.Mock
import Orchestration.Spec.Inspection

/-!
Test cases: a workflow to be rehearsed, and what is expected of it.
-/

namespace Orchestration

/-- Where a rehearsal begins: with a workflow from a file, or with one that has ended and is run
again. -/
inductive Opening where
  | fresh (path : String) (definition : String)
  | again (conductor : Conductor)

structure TestCase where
  spec : Spec
  opening : Opening

namespace TestCase

def noWorkflow (path : Value) : Error :=
  .rehearsal ("Unable to open worklfow definition at \"" ++ path.text ++ "\"")

def openWorkflow (files : Files) (path : Value) : Except Error Opening :=
  match path with
  | .str p =>
    if files.isFile p then do .ok (.fresh p (← files.read p)) else .error (noWorkflow path)
  | .int _ | .bool _ => .error (noWorkflow path)
  | v => .error (.broken .type ("stat: path should be string, bytes, os.PathLike or integer, not " ++ v.typeName))

def ofSpec (files : Files) (s : Spec) : Except Error TestCase := do
  if s.kind = .rerunTestCase then
    .ok ⟨s, .again (← Conductor.deserialize (← s.value "workflow_state"))⟩
  else .ok ⟨s, ← openWorkflow files (← s.value "workflow")⟩

/-! ### Reading -/

def notProvided : Error := .refused .value "Workflow test spec is not provided."

def ambiguous : Error :=
  .refused .value "Ambiguous workflow test spec provided. Both fixture and fixture_path are given."

def noBase (base : String) : Error :=
  .refused .value ("The base path \"" ++ base ++ "\" does not exist.")

def notMapping : Error := .refused .value "Unable to convert workflow test case into dict."

def readText (text : String) : Except Error Value :=
  match Document.read .lenient text with
  | .ok v => .ok v
  | .error failure => .error failure.toError

/-- Puts a directory in front of a path that does not start at the root. -/
def rebase (base : String) (path : Value) : Except Error Value :=
  match path with
  | .str p => .ok (.str (if Text.startsWith p "/" then p else base ++ "/" ++ p))
  | v => .error (Value.noAttribute v "startswith")

def rebaseField (base field : String) (v : Value) : Except Error Value :=
  match v with
  | .map entries =>
    match Entries.getStr? entries field with
    | some path => do .ok (.map (Entries.insertStr entries field (← rebase base path)))
    | none => .ok v
  | _ => .ok v

def rebaseMocks (base : String) (fixture : Value) : Except Error Value :=
  match fixture.field? "mock_action_executions" with
  | none => .ok fixture
  | some (.list mocks) => do
    .ok (fixture.setField "mock_action_executions" (.list (← mocks.mapM (rebaseField base "result_path"))))
  | some v => do
    let _ ← Schema.itemsOf v
    .ok fixture

/-- What a test is made from: given as it is, as the text of a document, or in a file. -/
def readFixture (files : Files) (fixture path base : Value) : Except Error Value := do
  if !fixture.truthy && !path.truthy then throw notProvided
  if fixture.truthy && path.truthy then throw ambiguous
  if base.truthy && !files.isDirectory base.text then throw (noBase base.text)
  if path.truthy then
    let full := if base.truthy then base.text ++ "/" ++ path.text else path.text
    readText (← files.read full)
  else
    match fixture with
    | .str text => readText text
    | v => .ok v

def load (files : Files) (fixture path base : Value) : Except Error TestCase := do
  let fixture ← readFixture files fixture path base
  if !fixture.isMap then throw notMapping
  let fixture ← if base.truthy then do
      rebaseMocks base.text (← rebaseField base.text "workflow" fixture)
    else .ok fixture
  let kind : Kind := if fixture.hasField "workflow_state" then .rerunTestCase else .testCase
  let test ← ofSpec files (← Spec.make kind fixture)
  test.spec.inspectOrRefuse .null
  .ok test

end TestCase

end Orchestration
