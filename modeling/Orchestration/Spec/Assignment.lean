import Orchestration.Spec.Semantics

/-!
Whether every variable is assigned before it is used.

The properties of a specification are gone through in the order in which they are evaluated. The
tasks of a workflow are gone through along their transitions; a task that joins knows what any way
to it assigns.
-/

namespace Orchestration.Spec

/-- What is wrong so far, and the variables that are assigned. -/
structure Known where
  findings : List Finding
  names : List Value

def union (left right : List Value) : List Value := Parent.distinct (left ++ right)

def assigned (v : Value) : List Value :=
  match v with
  | .map entries => Entries.keys entries
  | .list items => items.flatMap fun item => match item with
    | .str s => [.str s]
    | .map [(k, _)] => [k]
    | _ => []
  | .str s => [.str s]
  | _ => []

def useFindings (place : Place) (names : List Value) (use : Expression.Use) : List Finding :=
  let hidden := "Variable \"" ++ use.name ++ "\" that is prefixed with double underscores is considered a " ++
      "private variable and cannot be referenced."
  let early := "Variable \"" ++ use.name ++ "\" is referenced before assignment."
  (if Text.startsWith use.name "__" then [Finding.ofUse place use hidden] else []) ++
    (if names.any (· == .str use.name) then [] else [Finding.ofUse place use early])

/-- Looks at one value: first at what it uses, and then at what it assigns. -/
def inspectValue (assigns : Bool) (place : Place) (known : Known) (v : Value) : Known :=
  let findings := (Expression.uses v).flatMap (useFindings place known.names)
  ⟨known.findings ++ findings, if assigns then union known.names (assigned v) else known.names⟩

/-- Looks at a property; a list is looked at item by item. -/
def inspectProperty (assigns : Bool) (place : Place) (known : Known) (v : Value) : Known :=
  let v := match v with
    | .str text =>
      match Spec.parameterList text with
      | .list [] => v
      | parameters => parameters
    | _ => v
  match v with
  | .list items =>
    items.zipIdx.foldl (fun known (item, i) =>
      inspectValue assigns { place with spec := place.spec ++ "[" ++ toString i ++ "]" } known item) known
  | _ => inspectValue assigns place known v

/-- The walk through the tasks, along which variables are assigned. -/
structure Walk where
  joined : List (String × List Value)
  visited : List String
  findings : List Finding
  names : List Value

abbrev InspectContext := Spec → Option Parent → Except Error Known

namespace Walk

def joinedNames (walk : Walk) (task : String) : List Value :=
  ((walk.joined.find? (·.1 == task)).map (·.2)).getD []

/-- The names with which a task is inspected: those with which it is reached, or those of all ways
to it. -/
def namesAt (walk : Walk) (task : String) (names : List Value) : List Value :=
  if names.isEmpty then walk.joinedNames task else names

def join (walk : Walk) (task : String) (names : List Value) : Walk :=
  { walk with
    joined := (task, union (walk.joinedNames task) names) :: walk.joined.filter (·.1 != task) }

end Walk

def joins (task : Spec) : Bool := (task.valueOrNull "join").truthy

/-- Goes on from a transition to one of its targets. -/
def goOn (inspect : InspectContext) (tasks : Spec) (place : Place) (names : List Value)
    (walk : Walk) (transition : Spec) (index : Nat) (target : Value) :
    Except Error (Walk × List (String × List Value)) := do
  let known ← inspect transition (some ⟨place.transition index, names⟩)
  let walk := { walk with findings := walk.findings ++ known.findings }
  let names := union names known.names
  match target with
  | .str name =>
    if name.isEmpty || walk.visited.contains name || !tasks.hasTask name then .ok (walk, [])
    else
      match ← tasks.task name with
      | .spec next =>
        if next.joins then .ok (walk.join name names, [(name, [])]) else .ok (walk, [(name, names)])
      | other => .error (noMember other.raw "has_join")
  | odd => if odd.truthy && !odd.hashable then .error (Value.unhashable odd) else .ok (walk, [])

def visitTask (inspect : InspectContext) (tasks : Spec) (parent : Place) :
    Worklist.Visit Walk (String × List Value) := fun walk (name, names) => do
  let walk := { walk with visited := name :: walk.visited }
  let names := walk.namesAt name names
  match ← tasks.task name with
  | .spec task =>
    let place := parent.entry name
    let known ← inspect task (some ⟨place, names⟩)
    let names := union names known.names
    let walk :=
      { walk with findings := walk.findings ++ known.findings, names := union walk.names names }
    let transitions ← task.transitions
    let ways ← transitions.zipIdx.mapM fun (transition, i) => do
      .ok ((← transition.targets).map fun target => (transition, i, target))
    ways.flatten.foldlM (fun (walk, next) (transition, i, target) => do
      let (walk, more) ← goOn inspect tasks place names walk transition i target
      .ok (walk, next ++ more)) (walk, [])
  | other => .error (noMember other.raw "inspect_context")

/-- Where the walk starts, and the tasks that wait there. -/
def walkStart (flow : Flow) (names : List Value) : Walk × List (String × List Value) :=
  (⟨[], [], [], names⟩, flow.startTasks.map fun task => (task, names))

def walkTasks (inspect : InspectContext) (tasks : Spec) (flow : Flow) (place : Place)
    (names : List Value) : Except Error Walk :=
  let start := walkStart flow names
  Worklist.run (visitTask inspect tasks place) (flow.rounds + Command.all.length) start.1 start.2

def inspectTasksContext (inspect : InspectContext) (tasks : Spec) (parent : Option Parent) :
    Except Error Known := do
  let flow ← tasks.flow
  let names := (parent.map (·.names)).getD []
  if flow.startTasks.isEmpty then .ok ⟨[], names⟩
  else
    let walk ← walkTasks inspect tasks flow (← placeOf (parent.map (·.place))) names
    .ok ⟨walk.findings, walk.names⟩

def contextWithin : Nat → Spec → Option Parent → Except Error Known
  | 0, _, _ => .error (.broken .recursion "too deep")
  | fuel + 1, s, parent =>
    if s.kind == .tasks then inspectTasksContext (contextWithin fuel) s parent
    else do
      let start : Known := ⟨[], (parent.map (·.names)).getD []⟩
      let known ← s.kind.evaluationOrder.foldlM (fun (known : Known) name => do
        let p ← s.property name
        if !p.truthy then Except.ok known
        else
          let place := Place.property (parent.map (·.place)) name
          match p with
          | .spec part => do
            let inner ← contextWithin fuel part (some ⟨place, known.names⟩)
            .ok ⟨known.findings ++ inner.findings, union known.names inner.names⟩
          | .value v => .ok (inspectProperty (s.kind.assigning.contains name) place known v)
          | .method => .ok known) start
      .ok { known with findings := Finding.sortBySpec known.findings }

def inspectContext (s : Spec) (parent : Option Parent) : Except Error Known :=
  contextWithin Kind.deepest s parent

end Orchestration.Spec
