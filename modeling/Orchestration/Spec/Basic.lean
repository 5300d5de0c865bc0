import Orchestration.Document.Reader
import Orchestration.Expression.Parameters
import Orchestration.Schema.Validation
import Orchestration.Spec.Kind
import Orchestration.Value.Arithmetic

/-!
Specifications.

A specification is made from a mapping, a list, or the text of a document. Its parts are
specifications that are made along with it. What is written short is spelled out: `given` holds the
properties that replace what is written.
-/

namespace Orchestration

structure Spec where
  kind : Kind
  raw : Value
  name : Option Value
  member : Value
  parts : List (String × Spec)
  items : List Spec
  given : List (String × Value)

namespace Spec

def part? (s : Spec) (name : String) : Option Spec := (s.parts.find? (·.1 == name)).map (·.2)

def noRawField (s : Spec) : Error := Value.noAttribute s.raw "get"

/-- A property as it is written. -/
def rawField? (s : Spec) (name : String) : Except Error (Option Value) :=
  match s.raw with
  | .map entries => .ok (Entries.getStr? entries name)
  | _ => .error s.noRawField

def emptySpec : Error := .refused .value "The spec cannot be type of None."

/-- What a specification is made from: a mapping or a list as it is, or the content of a
document. -/
def readRaw (given : Value) : Except Error Value := do
  if !given.truthy then throw emptySpec
  let raw ← match given with
    | .map _ | .list _ => .ok given
    | _ => Document.load given
  if !raw.isMap && !given.isList then
    throw (.refused .value "The spec is not type of json or yaml.")
  .ok raw

def partSchema (kind : Kind) (member : Value) : Except Error Value :=
  if member.truthy then .ok kind.written else Schema.merge true kind.header kind.written

def kindsIn (schema : Value) (place : String) : List (String × Kind) :=
  match schema.field place with
  | .map entries => entries.filterMap fun (k, v) => match v with
    | .named title => (Kind.ofTitle? title).map fun kind => (k.text, kind)
    | _ => none
  | _ => []

abbrev Build := Kind → Value → Except Error Spec

def propertyParts (build : Build) (raw : Value) (kinds : List (String × Kind)) :
    Except Error (List (String × Spec)) := do
  let found ← kinds.mapM fun (name, kind) =>
    match raw with
    | .map entries =>
      match Entries.getStr? entries name with
      | some v => if v.truthy then do .ok [(name, ← build kind v)] else .ok []
      | none => .ok []
    | _ => .error (Value.noAttribute raw "get")
  .ok found.flatten

def patternParts (build : Build) (raw : Value) (kinds : List (String × Kind)) :
    Except Error (List (String × Spec)) := do
  let found ← kinds.mapM fun (pattern, kind) =>
    match raw with
    | .map entries => do
      let found ← entries.mapM fun (k, v) => do
        let name ← Schema.keyText k
        if (Schema.patternOf pattern).matchesStart name && v.truthy then
          .ok [(name, ← build kind v)]
        else .ok []
      .ok found.flatten
    | _ => .error (Value.noAttribute raw "items")
  .ok found.flatten

def sequenceItems (build : Build) (schema raw : Value) : Except Error (List Spec) := do
  if !(schema.field "type" == .str "array") then
    throw (.schemaDefinition "The schema for SequenceSpec must be type of array.")
  match schema.field "items" with
  | .named title =>
    match Kind.ofTitle? title, raw with
    | some kind, .list items => items.mapM (build kind)
    | _, _ => throw (.refused .value "The spec is not type of list.")
  | _ => throw (.schemaDefinition "The item type for the array must be type of Spec.")

/-- Parameters in one line as mappings of one entry each. -/
def parameterList (text : String) : Value :=
  .list ((Parameters.parse text).map fun (k, v) => .map [(.str k, v)])

def parameterMap (text : String) : Value :=
  .map (Entries.ofList ((Parameters.parse text).map fun (k, v) => (.str k, v)))

/-- The parameters in a text, in order or as a mapping. What is no text has none. -/
def parametersOf (inOrder : Bool) : Value → Value
  | .str text => if inOrder then parameterList text else parameterMap text
  | _ => if inOrder then .list [] else .map []

/-- A transition publishes what its line says, and continues if it says nothing else. -/
def transitionGiven (raw : Value) : List (String × Value) :=
  let publish := match raw.field "publish" with
    | .str text => if text.isEmpty then [] else [("publish", parameterList text)]
    | _ => []
  let targets := if (raw.field "do").truthy then [] else [("do", Value.str "continue")]
  publish ++ targets

/-- The parameters after the name of an action are its input. -/
def taskGiven (raw : Value) : Except Error (List (String × Value)) :=
  match raw.field "action" with
  | .str text =>
    let parameters := parameterMap text
    if parameters.truthy then
      match Text.cutFirst? [' '] text.toList with
      | some (name, _) => .ok [("action", .str (String.ofList name)), ("input", parameters)]
      | none => .error (.broken .value "substring not found")
    else .ok []
  | _ => .ok []

def entryId (task route : Value) : String := task.text ++ "__r" ++ route.text

def rerunGiven (raw : Value) : Except Error (List (String × Value)) :=
  match raw with
  | .map entries =>
    let task := (Entries.getStr? entries "task_id").getD .null
    let route := (Entries.getStr? entries "route").getD (.int 0)
    .ok [("task_state_entry_id", .str (entryId task route))]
  | _ => .error (Value.noAttribute raw "get")

def mockedActionGiven (raw : Value) : Except Error (List (String × Value)) := do
  match raw with
  | .map entries =>
    let status :=
      if (raw.field "status").truthy then [] else [("status", Value.str Status.succeeded.text)]
    let first := (Entries.getStr? entries "iter_id").getD (.int 0)
    .ok (status ++ [("iter_pos", ← Value.sub first (.int 1))])
  | _ => .error (Value.noAttribute raw "get")

/-- A test expects success unless it says otherwise. -/
def testGiven (raw : Value) : List (String × Value) :=
  if (raw.field "expected_workflow_status").truthy then []
  else [("expected_workflow_status", .str Status.succeeded.text)]

/-- The properties that replace what is written. -/
def givenBy (kind : Kind) (raw : Value) : Except Error (List (String × Value)) :=
  match kind with
  | .transition => .ok (transitionGiven raw)
  | .task => taskGiven raw
  | .rerunRequest => rerunGiven raw
  | .mockedAction => mockedActionGiven raw
  | .testCase | .rerunTestCase => .ok (testGiven raw)
  | _ => .ok []

/-- Whether a name is among the keys, items or letters of a value. -/
def mentions (v : Value) (name : String) : Except Error Bool := Value.holdsKey v name

def spellOutTask (task : Value) : Except Error Value := do
  if ← mentions task "with" then
    match task with
    | .map entries =>
      match Entries.getStr? entries "with" with
      | some (.str text) =>
        .ok (.map (Entries.insertStr entries "with" (.fields [("items", .str text)])))
      | _ => .ok task
    | .list _ | .tuple _ =>
      .error (.broken .type "list indices must be integers or slices, not str")
    | .str _ => .error (.broken .type "string indices must be integers, not 'str'")
    | _ => .error (.broken .type ("'" ++ task.typeName ++ "' object is not subscriptable"))
  else .ok task

def spellOut (raw : Value) : Except Error Value := do
  if ← mentions raw "tasks" then
    match raw with
    | .map entries =>
      match Entries.getStr? entries "tasks" with
      | some (.map tasks) => do
        let tasks ← tasks.mapM fun (k, task) => do .ok (k, ← spellOutTask task)
        .ok (.map (Entries.insertStr entries "tasks" (.map tasks)))
      | _ => .ok raw
    | .str _ => .error (.broken .type "string indices must be integers, not 'str'")
    | _ => .error (.broken .type "list indices must be integers or slices, not str")
  else .ok raw

/-- What a specification of a kind is made from, with what is written short spelled out. -/
def prepare (kind : Kind) (given : Value) : Except Error Value :=
  match kind with
  | .workflow => do
    if !given.truthy then throw emptySpec
    let raw ← match given with
      | .map _ | .list _ => .ok given
      | _ => Document.load given
    spellOut raw
  | .testCase =>
    if given.truthy then .ok given
    else .error (.refused .value "The workflow test case cannot be empty.")
  | .rerunTestCase =>
    if given.truthy then .ok given
    else .error (.refused .value "The workflow rerun test case cannot be empty.")
  | _ => .ok given

def buildWithin : Nat → Kind → Value → Value → Value → Except Error Spec
  | 0, _, _, _, _ => .error (.broken .recursion "too deep")
  | fuel + 1, kind, given, name, member => do
    let raw ← readRaw (← prepare kind given)
    let schema ← partSchema kind member
    let build : Build := fun kind v => buildWithin fuel kind v .null (.bool true)
    let properties ← propertyParts build raw (kindsIn schema "properties")
    let patterns ← patternParts build raw (kindsIn schema "patternProperties")
    let items ← if kind.shape == .sequence then sequenceItems build schema raw else .ok []
    let given ← givenBy kind raw
    .ok
      { kind := kind, raw := raw, name := if name.truthy then some name else none, member := member,
        parts := properties ++ patterns, items := items, given := given }

/-- Makes a specification of a kind. A member of another one has no version or description of its
own. -/
def build (kind : Kind) (given name member : Value) : Except Error Spec :=
  buildWithin Kind.deepest kind given name member

def make (kind : Kind) (given : Value) : Except Error Spec := build kind given .null (.bool false)

end Spec

end Orchestration
