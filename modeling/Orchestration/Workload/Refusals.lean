import Orchestration.Graph.Cycle
import Orchestration.Registry
import Orchestration.Rehearsal.Verdict
import Orchestration.Workload.Rehearsing
import Orchestration.Workload.Structure
import Orchestration.Workload.Tools

/-!
Uses of the engine that it refuses, each told by a word.
-/

namespace Orchestration.Workload

/-- A word for an attempt that is refused. One that is not refused says nothing. -/
def tell {α : Type} (word : String) (x : Except Error α) : List Value :=
  match x with
  | .ok _ => []
  | .error _ => [.str word]

def tellName {α : Type} (x : Except Error α) : List Value :=
  match x with
  | .ok _ => []
  | .error e => [.str e.name]

/-! ### Conductors -/

/-- Records that lack a graph, a state, an input or an output of the right type. -/
def wrongRecords (c : Conductor) (g : Graph) : List Conductor.Record :=
  let good : Conductor.Record := ⟨some g, .list [], .list [], some c.state, .empty, .null, .empty⟩
  [{ good with graph := none }, { good with state := none }, { good with input := .int 1 },
   { good with output := .int 1 }]

def conductorRefusals : Except Error (List Value) := do
  let c ← begin (chain 2)
  let g ← c.spec.compose
  let attempt {α : Type} (word : String) (act : Conducting α) : List Value :=
    tell word (act.run c).1
  let running := Event.action .running .null .null
  .ok ([Value.null, .str "x", .empty].flatMap (fun v => tell "badspec" (Conductor.ofValue v)) ++
    (wrongRecords c g).flatMap (fun r => tell "badrestore" (c.restore r)) ++
    attempt "badlog" (Conductor.logEntry (.str "bogus") (.str "x") .nothing .null .null) ++
    attempt "noterm" Conductor.terminalContext ++ attempt "active" (Conductor.requestRerun []) ++
    attempt "badtrans" (Conductor.changeStatus .requested) ++ tell "badev" (Event.ofValue (.str "x")) ++
    attempt "badtask" (Conductor.update "nosuch" 0 running) ++ attempt "badentry" (Conductor.update "task2" 0 running) ++
    attempt "badadd" (do Conductor.addEntry "nosuch" 0 (← Conductor.share [0]) (← Conductor.share [])) ++
    attempt "badtrctx" (Conductor.transitionContexts "task1" 0) ++
    attempt "noctx" (Conductor.initialContext "nosuch" 0))

/-- A task that is carried out again and again before the workflow goes on. -/
def loop : Value :=
  let again := Value.fields [("when", .str "<% ctx().count < 2 %>"),
    ("publish", .list [.fields [("count", .str "<% ctx().count + 1 %>")]]), ("do", .str "loop")]
  let out := Value.fields [("when", .str "<% ctx().count >= 2 %>"), ("do", .str "done")]
  workflow [("vars", .list [.fields [("count", .int 0)]])]
    [("begin", task [goTo ["loop"]]), ("loop", task [("next", .list [again, out])]), ("done", task [])]

/-- A workflow that goes round, one that cannot be run again from where it never was, and one that
is paused. -/
def loopAnswers : Except Error (List Value) := do
  let g ← (← Catalog.native.instantiate loop).compose
  let c ← conducting loop (toEnd host)
  let rerun := ((Conductor.requestRerun [⟨.str "nosuch", .int 0, false⟩]).run c).1
  let paused ← conducting loop do
    Conductor.requestStatus .paused
    Conductor.getState
  .ok ([.int (g.nextTransitions "loop").length, .int g.cycles.length, .list (g.cycles.map texts),
    .bool (g.cycles.any g.isClosed), .str c.state.status.text, .int c.state.terminalEntries.length] ++
    tell "badrerun" rerun ++ [.str paused.status.text, .int paused.ready.length])

/-! ### Graphs and providers -/

def mockNamed (names : List String) : Except Error Spec :=
  Catalog.mock.instantiate (.fields (names.map fun name => (name, .fields [("version", .float 1.0)])))

def composerTitle (name : String) : Except Error (List Value) := do
  match ← Registry.find "orquesta.composers" name with
  | .composer title => .ok [.str title]
  | _ => .ok []

def graphRefusals : Except Error (List Value) := do
  let native ← Catalog.native.instantiate (chain 2)
  let mock ← mockNamed ["wf"]
  let g := (Graph.empty.addTransition "a" "b" .null []).addTransition "a" "b" .null []
  .ok (tell "wrongspec" (native.composeWith .mock) ++ tell "wrongspec" (mock.composeWith .native) ++
    tell "wronggraph" (← native.taskMapping).compose ++ tell "ambig" (g.transition "a" "b" .null []) ++
    [(← g.transition "a" "b" (.int 0) []).toValue] ++ tell "upd" (g.updateTransition "a" "nosuch" .null []) ++
    tell "gettask" (g.task "nosuch") ++ [mock.name.getD .null] ++ tell "multi" (mockNamed ["wf1", "wf2"]) ++
    (← composerTitle "native") ++ tell "noplugin" (Registry.find "orquesta.composers" "nosuch") ++
    tell "noplugin2" (do Registry.make (← Registry.find "nosuch" "nosuch") []))

/-! ### Rehearsals -/

def loadMocked (definition : Value) (mock : List (String × Value)) : Except Error Rehearsal :=
  let files := Files.ofTexts base [("wf.yaml", Json.write Json.oneLine definition)]
  Rehearsal.load files (.fields [("workflow", .str "wf.yaml"), ("expected_task_sequence", texts ["task1"]),
    ("mock_action_executions", .list [.fields mock])]) .null (.str base)

def rehearsalRefusals : List Value :=
  let nowhere :=
    Value.fields [("workflow", .str "/nosuch"), ("expected_task_sequence", texts ["task1"])]
  tellName (Spec.make .testCase .empty) ++ tellName (Spec.make .rerunTestCase .empty) ++
    tellName (do TestCase.ofSpec .none (← Spec.make .testCase nowhere)) ++
    [Value.null, .str "x"].flatMap (fun v => tell "badsess" (Rehearsal.ofValue v)) ++
    tellName (loadMocked (members 2) [("task_id", .str "task1")]) ++
    tellName (loadMocked (chain 2) [("task_id", .str "nosuch")]) ++
    tellName (loadMocked (chain 2) [("task_id", .str "task1"), ("result_path", .str "nosuch.txt")])

/-! ### Specifications -/

/-- Definitions that are empty, no mapping, of another version, or without a workflow. -/
def wrongDefinitions : List Value :=
  [.str "", .str "[1]", .fields [("version", .float 2.0), ("tasks", .empty)], .fields [("version", .float 1.0)]]

/-- The data of specifications from another catalog, and of another version. -/
def wrongData : List Value :=
  [.fields [("catalog", .str "nosuch"), ("version", .str Kind.version)],
   .fields [("catalog", .str Catalog.native.name), ("version", .str "nosuch")]]

/-- Starts of an inspection that lack a place in the specification, or in the schema. -/
def wrongParents : List Value :=
  [.fields [("schema_path", .str "a")], .fields [("spec_path", .str "a")]]

def nextOf (tasks : Spec) (name : String) : Except Error Spec := do
  match ← tasks.get (.str name) with
  | .spec task =>
    match ← task.property "next" with
    | .spec next => .ok next
    | other => .error (Value.noAttribute other.raw "next")
  | other => .error (Value.noAttribute other.raw "next")

def specRefusals : Except Error (List Value) := do
  let tasks ← (← Catalog.native.instantiate (members 2)).taskMapping
  let next ← nextOf tasks "task1"
  .ok (wrongDefinitions.flatMap (fun v => tell "badwf" (Catalog.load (.str "native") v)) ++
    tell "badyml" (Document.load (.str "a: [")) ++
    wrongData.flatMap (fun v => tell "baddeser" (Spec.deserialize .workflow v)) ++
    tell "nonespec" (Spec.make .workflow .null) ++ tell "notdict" (Spec.make .workflow (.int 1)) ++
    (List.replicate 5 tasks).flatMap (fun s => tell "nim" s.assign) ++ tell "nokey" (tasks.get (.str "nosuch")) ++
    [cut 10 (← tasks.text), .str (← next.text)] ++ (List.replicate 3 next).flatMap (fun s => tell "nim2" s.assign) ++
    (wrongParents ++ wrongParents ++ wrongParents).flatMap fun v => tell "badparent" (Parent.read v))

/-! ### Functions and expressions -/

def functionRefusals : Except Error (List Value) := do
  let item (v : Value) : Value := .fields [("__current_item", v)]
  .ok (tell "tasknotdict" (Context.setTask .empty (.str "x")) ++ tell "badjson" (call "json" [.int 1]) ++
    tell "noctx" (call "result" [.null]) ++ tell "noctx" (call "item" [.null]) ++
    tell "noitem" (call "item" [.fields [("a", .int 1)]]) ++ tell "notmap" (call "item" [item (.int 1), .str "k"]) ++
    tell "badkey" (call "item" [item (.fields [("a", .int 1)]), .str "k"]) ++
    [← call "task_status" [.null, .str "t"], ← call "task_status" [.empty, .str "t"]])

def languageRefusals (l : Language) : List Value :=
  tell "valnotstr" (l.faults (.int 1)) ++ tell "evalnotstr" (l.evaluate (.int 1) (Node.ofValue .empty)) ++
    tell "varsnotstr" (Language.textOf (.int 1))

def refusals : Except Error (List Value) := do
  .ok ((← conductorRefusals) ++ (← loopAnswers) ++ (← graphRefusals) ++ rehearsalRefusals ++ (← specRefusals) ++
    (← functionRefusals) ++ Language.all.flatMap languageRefusals)

/-- An empty list passes for data until something is looked up in it. -/
def lastAttempt : Except Error Value := do
  .ok (← Language.query.evaluate (.str "<% 1 %>") (Node.ofValue (.list []))).toValue

end Orchestration.Workload
