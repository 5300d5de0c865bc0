import Orchestration.Context.Current
import Orchestration.Expression.Rendering
import Orchestration.Schema.Merge
import Orchestration.Task.Basic

/-!
The actions of a task, and the context with which it goes on.
-/

namespace Orchestration

variable [Engine]

structure Action where
  action : Value
  input : Value
  item : Option Nat

namespace Action

def toValue (a : Action) : Value :=
  .fields ([("action", a.action), ("input", a.input)] ++ (a.item.map fun i => ("item_id", .int i)).toList)

end Action

namespace Task

def evaluate (context statement : Value) : Except Error Value := do
  .ok (← Expression.evaluate (Node.ofValue context) statement).toValue

def notIterable (v : Value) : Error :=
  .broken .type ("argument of type '" ++ v.typeName ++ "' is not iterable")

def itemsText (r : Repetition) : Except Error String :=
  match r with
  | .over (.str text) _ => .ok text
  | .over (.list items) _ => .error (Value.noAttribute (.list items) "strip")
  | .over (.map entries) _ => .error (Value.noAttribute (.map entries) "strip")
  | .over v _ => .error (notIterable v)
  | .unusable (.map _) => .error (notIterable (.object "builtin_function_or_method"))
  | .unusable v => .error (Value.noAttribute v "items")

/-- An item as the expressions of the task see it: under its names, if it has any. -/
def itemOf (keys : Option (List String)) (item : Value) : Value :=
  match keys with
  | none => item
  | some keys =>
    match item with
    | .list parts | .tuple parts => .map (Entries.ofList ((keys.map Value.str).zip parts))
    | _ =>
      match keys with
      | [key] => .map [(.str key, item)]
      | _ => item

def renderAction (task : Task) (context : Value) (item : Option Nat) : Except Error Action := do
  let action ← evaluate context task.action
  let input ← evaluate context task.input
  .ok ⟨action, input, item⟩

def itemAction (task : Task) (context : Value) (keys : Option (List String)) (i : Nat)
    (item : Value) :
    Except Error Action := do
  task.renderAction (← Context.setItem context (itemOf keys item)) (some i)

def items (text : String) (context : Value) : Except Error (List Value) := do
  let expression := Itemization.expression text
  match ← evaluate context (.str expression) with
  | .list items => .ok items
  | _ => .error (.refused .type ("The value of \"" ++ expression ++ "\" is not type of list."))

def render (task : Task) (context : Value) : Except Error (List Action) := do
  match task.repetition with
  | none => do .ok [← task.renderAction context none]
  | some r => do
    let text ← itemsText r
    let items ← items text context
    items.zipIdx.mapM fun (item, i) => task.itemAction context (Itemization.keys text) i item

/-- The context with which a task goes on. -/
structure Outcome where
  context : Value
  published : List (Value × Node)
  errors : List Error

def transitionAt (task : Task) (number : Value) : Except Error Transition :=
  match number.asInt? with
  | some n =>
    let index := if n < 0 then n + task.transitions.length else n
    match if index < 0 then none else task.transitions[index.toNat]? with
    | some transition => .ok transition
    | none => .error (.broken .index "list index out of range")
  | none =>
    .error (.broken .type ("list indices must be integers or slices, not " ++ number.typeName))

/-- Whether a transition goes on to a task; in a text the name only has to occur. -/
def goesTo (transition : Transition) (target : Value) : Except Error Bool :=
  match transition.targets, target with
  | .str text, .str name => .ok (Text.contains text name)
  | .str _, v =>
    .error (.broken .type ("'in <string>' requires string as left operand, not " ++ v.typeName))
  | .list items, v | .tuple items, v => .ok (items.any (· == v))
  | .map entries, v => .ok (Entries.has entries v)
  | v, _ => .error (notIterable v)

def isHidden (key : Value) : Except Error Bool :=
  match key with
  | .str s => .ok (Text.startsWith s "__")
  | v => .error (Value.noAttribute v "startswith")

/-- Renders what a task publishes when it goes on to another one. -/
def finish (task : Task) (target number context : Value) : Except Error Outcome := do
  let transition ← task.transitionAt number
  let start := Rendering.start context 1
  let rendered ← if ← goesTo transition target then
      start.assignAll (← if transition.publish.truthy then Schema.itemsOf transition.publish else .ok [])
    else .ok start
  let published := Node.toEntries rendered.values
  let out ← Value.merge true context (.map published)
  let visible ← match out with
    | .map entries => do
      .ok (Value.map (← entries.filterM fun (k, _) => do .ok (!(← isHidden k))))
    | v => .error (Value.noAttribute v "keys")
  .ok ⟨visible, rendered.values, rendered.errors⟩

end Task

end Orchestration
