import Orchestration.Schema.Merge
import Orchestration.Schema.Types

/-!
The kinds of specification.

Each kind has a name, belongs to a catalog, and has a schema. In a schema the name of another kind
stands for a part that is a specification itself.
-/

namespace Orchestration

inductive Catalog where
  | native
  | mock
  | test
  deriving DecidableEq, Repr

namespace Catalog

def name : Catalog → String
  | .native => "native"
  | .mock => "mock"
  | .test => "test"

end Catalog

/-- How a specification holds its parts. -/
inductive Shape where
  | plain
  | mapping
  | sequence
  deriving DecidableEq, Repr

inductive Kind where
  | transition
  | transitions
  | repetition
  | retry
  | task
  | tasks
  | workflow
  | mockWorkflow
  | rerunRequest
  | rerunRequests
  | expectedComplaint
  | expectedComplaints
  | expectedInspection
  | expectedError
  | expectedErrors
  | mockedAction
  | mockedActions
  | testCase
  | rerunTestCase
  | sampleBase
  | sampleBaseMapping
  | sampleBaseSequence
  | sampleLeaf
  | sampleJoint
  | sampleMapping
  | sampleSequence
  | sample
  deriving DecidableEq, Repr

namespace Kind

open Schema

def all : List Kind :=
  [.transition, .transitions, .repetition, .retry, .task, .tasks, .workflow, .mockWorkflow, .rerunRequest,
   .rerunRequests, .expectedComplaint, .expectedComplaints, .expectedInspection, .expectedError,
   .expectedErrors, .mockedAction, .mockedActions, .testCase, .rerunTestCase, .sampleBase,
   .sampleBaseMapping, .sampleBaseSequence, .sampleLeaf, .sampleJoint, .sampleMapping, .sampleSequence,
   .sample]

def name : Kind → String
  | .transition => "TaskTransitionSpec"
  | .transitions => "TaskTransitionSequenceSpec"
  | .repetition => "ItemizedSpec"
  | .retry => "TaskRetrySpec"
  | .task => "TaskSpec"
  | .tasks => "TaskMappingSpec"
  | .workflow | .mockWorkflow => "WorkflowSpec"
  | .rerunRequest => "TaskRerunRequest"
  | .rerunRequests => "TaskRerunRequestSequenceSpec"
  | .expectedComplaint => "MockInspectionError"
  | .expectedComplaints => "MockInspectionErrorSequenceSpec"
  | .expectedInspection => "MockInspectionErrors"
  | .expectedError => "MockWorkflowError"
  | .expectedErrors => "MockWorkflowErrorSequenceSpec"
  | .mockedAction => "MockActionExecution"
  | .mockedActions => "MockActionExecutionSequenceSpec"
  | .testCase => "WorkflowTestCase"
  | .rerunTestCase => "WorkflowRerunTestCase"
  | .sampleBase => "MockBaseSpec"
  | .sampleBaseMapping => "MockBaseMappingSpec"
  | .sampleBaseSequence => "MockBaseSequenceSpec"
  | .sampleLeaf => "MockLeafSpec"
  | .sampleJoint => "MockJointSpec"
  | .sampleMapping => "MockMappingSpec"
  | .sampleSequence => "MockSequenceSpec"
  | .sample => "MockSpec"

def catalog : Kind → Catalog
  | .mockWorkflow => .mock
  | .sampleBase | .sampleBaseMapping | .sampleBaseSequence | .sampleLeaf | .sampleJoint | .sampleMapping
  | .sampleSequence | .sample => .test
  | _ => .native

def version : String := "1.0"

def shape : Kind → Shape
  | .tasks | .sampleBaseMapping | .sampleMapping => .mapping
  | .transitions | .rerunRequests | .expectedComplaints | .expectedErrors | .mockedActions
  | .sampleBaseSequence | .sampleSequence => .sequence
  | _ => .plain

/-- The name by which a kind goes among the kinds of all catalogs. -/
def title (kind : Kind) : String :=
  match kind.catalog with
  | .native => kind.name
  | catalog => catalog.name ++ "." ++ kind.name

def ofTitle? (title : String) : Option Kind := all.find? (·.title == title)

def part (kind : Kind) : Value := .named kind.title

def objectOf (properties : List (String × Value)) (more : List (String × Value)) : Value :=
  .fields ([("type", .str "object"), ("properties", .fields properties)] ++ more)

def closed : String × Value := ("additionalProperties", .bool false)

def required (names : List String) : String × Value := ("required", .list (names.map Value.str))

def arrayOf (kind : Kind) (more : List (String × Value)) : Value :=
  .fields ([("type", .str "array"), ("items", kind.part)] ++ more)

def mapOf (kind : Kind) (more : List (String × Value)) : Value :=
  .fields ([("type", .str "object")] ++ more ++ [("patternProperties", .fields [(wordPatternText, kind.part)])])

def wholeOr (start : Int) : Value :=
  .fields [("type", "integer"), ("minimum", .int 0), ("default", .int start)]

/-- What a test expects, whether it starts a workflow or runs it again. -/
def expectations : List (String × Value) :=
  [("expected_inspection_errors", part .expectedInspection),
   ("expected_routes", .fields [("type", "array"), ("items", ofType "array"), ("default", .list [.list []])]),
   ("expected_task_sequence", .fields [("type", "array"), ("items", nonemptyString)]),
   ("mock_action_executions", part .mockedActions),
   ("expected_term_tasks", .fields [("type", "array"), ("items", nonemptyString)]),
   ("expected_workflow_status", statuses),
   ("expected_errors", part .expectedErrors),
   ("expected_output", ofType "object")]

def written : Kind → Value
  | .transition =>
    objectOf
      [("when", nonemptyString),
       ("publish", oneOf [nonemptyString, uniqueOneKeyMapList]),
       ("do", oneOf [nonemptyString, uniqueStringList])]
      [closed]
  | .transitions => arrayOf .transition []
  | .repetition =>
    objectOf
      [("items", .fields [("type", "string"), ("minLength", .int 1), ("pattern", .str Itemization.patternText)]),
       ("concurrency", stringOrPositiveInteger)]
      [closed]
  | .retry =>
    objectOf
      [("when", nonemptyString), ("count", stringOrPositiveInteger), ("delay", stringOrPositiveInteger)]
      [required ["count"], closed]
  | .task =>
    objectOf
      [("delay", stringOrPositiveInteger),
       ("join", oneOf [.fields [("enum", .list ["all"])], positiveInteger]),
       ("with", part .repetition),
       ("action", nonemptyString),
       ("input", oneOf [nonemptyString, nonemptyMap]),
       ("retry", part .retry),
       ("next", part .transitions)]
      [closed]
  | .tasks => mapOf .task [("minProperties", .int 1)]
  | .workflow =>
    objectOf
      [("vars", uniqueOneKeyMapList),
       ("input", uniqueStringOrOneKeyMapList),
       ("output", uniqueOneKeyMapList),
       ("tasks", part .tasks)]
      [required ["tasks"], closed]
  | .rerunRequest =>
    objectOf
      [("task_id", nonemptyString),
       ("route", wholeOr 0),
       ("reset_items", .fields [("type", "boolean"), ("default", .bool false)])]
      [closed, required ["task_id"]]
  | .rerunRequests => arrayOf .rerunRequest [("default", .list [])]
  | .expectedComplaint =>
    objectOf
      [("type", nonemptyString),
       ("expression", nonemptyString),
       ("message", nonemptyString),
       ("schema_path", nonemptyString),
       ("spec_path", nonemptyString)]
      [closed, required ["message"]]
  | .expectedComplaints => arrayOf .expectedComplaint []
  | .expectedInspection =>
    objectOf
      (["syntax", "semantics", "expressions", "context", "contents"].map fun name =>
        (name, part .expectedComplaints))
      [closed, ("default", Value.empty)]
  | .expectedError =>
    objectOf
      [("type", nonemptyString),
       ("message", nonemptyString),
       ("task_id", nonemptyString),
       ("route", positiveInteger),
       ("task_transition_id", nonemptyString),
       ("result", anything),
       ("data", ofType "object")]
      [closed, required ["type", "message"]]
  | .expectedErrors => arrayOf .expectedError []
  | .mockedAction =>
    objectOf
      [("task_id", nonemptyString),
       ("route", wholeOr 0),
       ("seq_id", positiveInteger),
       ("item_id", positiveInteger),
       ("iter_id", wholeOr 0),
       ("num_iter", wholeOr 1),
       ("status", statuses),
       ("result", anythingOrNull),
       ("result_path", nonemptyString)]
      [closed, required ["task_id"]]
  | .mockedActions => arrayOf .mockedAction [("default", .list [])]
  | .testCase =>
    objectOf
      ([("workflow", nonemptyString),
        ("inputs", .fields [("type", "object"), ("default", Value.empty)])] ++ expectations)
      [required ["workflow", "expected_task_sequence"], closed]
  | .rerunTestCase =>
    objectOf
      ([("workflow_state", ofType "object"), ("rerun_tasks", part .rerunRequests)] ++ expectations)
      [required ["workflow_state", "expected_task_sequence"], closed]
  | .sampleLeaf =>
    objectOf [("attr1", nonemptyString), ("attr2", nonemptyString)] [required ["attr1"], closed]
  | .sampleJoint => objectOf [("attr1", part .sampleLeaf)] [required ["attr1"], closed]
  | .sampleMapping => mapOf .sampleJoint []
  | .sampleSequence => arrayOf .sampleJoint []
  | .sample =>
    objectOf
      [("inputs", uniqueStringOrOneKeyMapList),
       ("vars", nonemptyMap),
       ("attr1", nonemptyString),
       ("attr1-1", nonemptyString),
       ("attr1_2", nonemptyString),
       ("attr2", nonemptyMap),
       ("attr3", uniqueStringList),
       ("attr4", uniqueStringOrOneKeyMapList),
       ("attr5", part .sampleJoint),
       ("attr6", part .sampleMapping),
       ("attr7", part .sampleSequence)]
      [required ["attr1"], closed]
  | .mockWorkflow | .sampleBase | .sampleBaseMapping | .sampleBaseSequence => Value.empty

def header (kind : Kind) : Value :=
  let versions := match kind.catalog with
    | .native => Schema.version.setField "enum" (.list [.str version, .float 1.0])
    | _ => Schema.version
  objectOf
    [("name", nonemptyString), ("version", versions), ("description", nonemptyString),
     ("tags", uniqueStringList)]
    []

/-- How many kinds can stand inside each other. -/
def deepest : Nat := 8

/-- A schema, or part of one, with schemas in the places of kinds. -/
def resolvePart (resolve : Kind → Value) : Value → Value
  | .named title => ((ofTitle? title).map resolve).getD .null
  | v => v

def resolveEntries (resolve : Kind → Value) (v : Value) : Value :=
  match v with
  | .map entries => .map (entries.map fun (k, w) => (k, resolvePart resolve w))
  | _ => v

/-- A schema in which the places of kinds that stand directly in it are resolved. -/
def resolveIn (resolve : Kind → Value) (schema : Value) : Value :=
  match schema with
  | .map entries => .map (entries.map fun (k, v) =>
      if k == .str "properties" || k == .str "patternProperties" then (k, resolveEntries resolve v)
      else if k == .str "items" then (k, resolvePart resolve v)
      else (k, v))
  | _ => schema

def resolveWithin : Nat → Kind → Value
  | 0, kind => kind.written
  | fuel + 1, kind => resolveIn (resolveWithin fuel) kind.written

def resolved (kind : Kind) : Value := resolveWithin deepest kind

/-- The schema of a kind: with the properties of every specification, and with its parts, if these
are wanted. -/
def schema (kind : Kind) (withHeader resolve : Bool) : Except Error Value := do
  let own ← if withHeader then Schema.merge true kind.written kind.header else .ok kind.written
  .ok (if resolve then resolveIn resolved own else own)

def evaluationOrder : Kind → List String
  | .transition => ["when", "publish", "do"]
  | .repetition => ["items", "concurrency"]
  | .retry => ["when", "count", "delay"]
  | .task => ["delay", "with", "action", "input", "next"]
  | .workflow => ["input", "vars", "tasks", "output"]
  | .sampleLeaf => ["attr1", "attr2"]
  | .sampleJoint => ["attr1"]
  | .sample =>
    ["inputs", "vars", "attr1", "attr1-1", "attr1_2", "attr2", "attr3", "attr4", "attr5", "attr6", "attr7"]
  | _ => []

def assigning : Kind → List String
  | .transition => ["publish"]
  | .workflow => ["input", "vars", "output"]
  | .sample => ["inputs", "vars"]
  | _ => []

def commonMethods : List String :=
  ["getattr_default", "copy", "serialize", "deserialize", "get_catalog", "get_version",
   "get_schema_validator", "get_meta_schema", "get_schema", "get_spec_path", "get_schema_path", "inspect",
   "inspect_syntax", "inspect_semantics", "inspect_expressions", "inspect_context"]

def shapeMethods : Shape → List String
  | .plain => []
  | .mapping => ["keys", "values", "items", "iteritems", "clear", "pop", "update"]
  | .sequence =>
    ["insert", "append", "clear", "count", "extend", "index", "pop", "remove", "reverse"]

def ownMethods : Kind → List String
  | .task =>
    ["has_items", "get_items_spec", "has_join", "has_retry", "render", "finalize_context"]
  | .tasks =>
    ["has_tasks", "has_task", "get_task", "get_next_tasks", "get_prev_tasks", "get_start_tasks",
     "is_join_task", "is_split_task", "in_cycle", "has_cycles", "detect_actionless_with_items",
     "detect_reserved_names", "detect_start_tasks", "detect_undefined_tasks", "detect_unreachable_tasks"]
  | .workflow => ["render_input", "render_vars", "render_output"]
  | .rerunRequest => ["new"]
  | .testCase | .rerunTestCase => ["get_mock_action_execution"]
  | _ => []

def methods (kind : Kind) : List String :=
  commonMethods ++ shapeMethods kind.shape ++ kind.ownMethods

end Kind

end Orchestration
