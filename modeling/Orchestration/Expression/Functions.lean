import Orchestration.Json.Reader
import Orchestration.Status
import Orchestration.Value.Order
import Orchestration.Value.Merge

/-!
The functions that expressions of both languages can call.

An expression is evaluated in surroundings: the variables of the context, the state of the workflow,
the current task and the current item. Each language has values of its own; a `View` says how a
function gets to see them.
-/

namespace Orchestration

structure View (α : Type) where
  plain : α → Value
  entries? : α → Option (List (Value × α))

/-- What a function gives: something that was there before, a new mapping of such things, or a new
value. -/
inductive Found (α : Type) where
  | one (found : α)
  | mapping (entries : List (Value × α))
  | value (v : Value)

namespace Found

def toValue : Found Value → Value
  | .one v | .value v => v
  | .mapping entries => .map entries

end Found

structure Surroundings (α : Type) where
  isSet : Bool
  find : String → Except Error α

namespace Functions

def valueView : View Value where
  plain v := v
  entries?
    | .map entries => some entries
    | _ => none

def notSubscriptable (v : Value) : Error :=
  .broken .type ("'" ++ v.typeName ++ "' object is not subscriptable")

def indicesMustBeWhole (v key : Value) : Error :=
  match v with
  | .str _ => .broken .type ("string indices must be integers, not '" ++ key.typeName ++ "'")
  | _ => .broken .type (v.typeName ++ " indices must be integers or slices, not " ++ key.typeName)

def outOfRange (v : Value) : Error :=
  match v with
  | .str _ => .broken .index "string index out of range"
  | _ => .broken .index (v.typeName ++ " index out of range")

/-- The item at an index; a negative one counts from the end. -/
def itemAt? {α : Type} (items : List α) (n : Int) : Option α :=
  if n ≥ 0 then items[n.toNat]?
  else if -n ≤ items.length then items[items.length - (-n).toNat]?
  else none

def subscript (v key : Value) : Except Error Value :=
  match v with
  | .map entries =>
    if !key.hashable then .error key.unhashable
    else
      match Entries.get? entries key with
      | some found => .ok found
      | none => .error (.broken .key key.shown)
  | .list items | .tuple items =>
    match key.asInt? with
    | some n => (itemAt? items n).elim (.error (outOfRange v)) .ok
    | none => .error (indicesMustBeWhole v key)
  | .str s =>
    match key.asInt? with
    | some n =>
      (itemAt? s.toList n).elim (.error (outOfRange v)) fun c => .ok (.str (String.singleton c))
    | none => .error (indicesMustBeWhole v key)
  | _ => .error (notSubscriptable v)

def surroundings (context : Value) : Surroundings Value where
  isSet := context.truthy
  find name := subscript context (.str name)

/-- What is found under a name; a missing entry is no error. -/
def findOr {α : Type} (around : Surroundings α) (name : String) (missing : α) : Except Error α :=
  match around.find name with
  | .error (.broken .key _) => .ok missing
  | other => other

def notSet : Error := .evaluation none "The context is not set."

def noCurrentTask : Error := .evaluation none "The current task is not set in the context."

def currentTask {α : Type} (view : View α) (around : Surroundings α) : Except Error α := do
  if !around.isSet then throw notSet
  match around.find "__current_task" with
  | .error (.broken .key _) => throw noCurrentTask
  | .error e => throw e
  | .ok task => if (view.plain task).truthy then .ok task else throw noCurrentTask

def entry {α : Type} (view : View α) (v : α) (key : String) : Except Error α :=
  match view.entries? v with
  | some entries =>
    match entries.find? fun (k, _) => k == .str key with
    | some (_, found) => .ok found
    | none => .error (.broken .key (Value.str key).shown)
  | none => do
    let _ ← subscript (view.plain v) (.str key)
    .error (notSubscriptable (view.plain v))

def optionalEntry (v : Value) (key : String) : Except Error Value :=
  match v with
  | .map entries => .ok ((Entries.getStr? entries key).getD .null)
  | _ => .error (Value.noAttribute v "get")

def orEmpty (v : Value) : Value := if v.truthy then v else Value.empty

def entryId (task route : String) : String := task ++ "__r" ++ route

def walk (v : Value) : Except Error (List Value) :=
  match v with
  | .list items | .tuple items | .set items => .ok items
  | .map entries => .ok (Entries.keys entries)
  | .str s => .ok (s.toList.map fun c => .str (String.singleton c))
  | _ => .error (.broken .type ("'" ++ v.typeName ++ "' object is not iterable"))

def distinctItems (v : Value) : Except Error (List Value) := do
  let items ← walk v
  match items.find? fun x => !x.hashable with
  | some x => throw x.unhashable
  | none => .ok items

/-- The route before `route` that is nearest to it and has no part that `details` lacks. -/
def earlierRoute? (routes : List Value) (details : List Value) :
    (route : Nat) → Except Error (Option (Fin route))
  | 0 => .ok none
  | route + 1 => do
    let parts ← distinctItems ((routes[route]?).getD (.list []))
    if Value.isSubset parts details then .ok (some (Fin.last route))
    else do
      let found ← earlierRoute? routes details route
      .ok (found.map fun r => r.castSucc)

def unsetStatus : Value := .str Status.unset.text

def recordedStatus (state index : Value) : Except Error Value := do
  let sequence ← optionalEntry state "sequence"
  let entry ← subscript (if sequence.truthy then sequence else .list []) index
  match entry with
  | .null => .ok unsetStatus
  | .map entries => .ok ((Entries.getStr? entries "status").getD unsetStatus)
  | _ => throw (Value.noAttribute entry "get")

/-- The status of a task on a route. A task without an entry there is looked for on the earlier
routes from which this one came. -/
def statusOn (state pointers : Value) (task : String) (route : Nat) : Except Error Value := do
  match ← optionalEntry pointers (entryId task (toString route)) with
  | .null =>
    if route == 0 then .ok unsetStatus
    else do
      let routes ← walk (← subscript state (.str "routes"))
      let details ← distinctItems (← subscript (.list routes) (.int route))
      match ← earlierRoute? routes details route with
      | some earlier => statusOn state pointers task earlier
      | none => .ok unsetStatus
  | index => recordedStatus state index
termination_by route
decreasing_by exact earlier.isLt

/-- The route that is meant when none is given. -/
def currentRoute (around : Surroundings Value) : Except Error Value :=
  match around.find "__current_task" with
  | .error (.broken .key _) => .ok (.int 0)
  | .error e => .error e
  | .ok task =>
    match subscript (orEmpty task) (.str "route") with
    | .error (.broken .key _) => .ok (.int 0)
    | other => other

def statusOnAny (state pointers task route : Value) : Except Error Value := do
  match ← optionalEntry pointers (entryId task.text route.text) with
  | .null =>
    if ← Value.compares .greater route (.int 0) then
      match route with
      | .int n => statusOn state pointers task.text n.toNat
      | _ => do
        let routes ← subscript state (.str "routes")
        let _ ← subscript routes route
        throw (indicesMustBeWhole routes route)
    else .ok unsetStatus
  | index => recordedStatus state index

def taskStatus (around : Surroundings Value) (task route : Value) : Except Error Value := do
  if !around.isSet then .ok unsetStatus
  else do
    let route ← if route.isNull then currentRoute around else .ok route
    let state ← findOr around "__state" Value.empty
    let state := orEmpty state
    let pointers ← optionalEntry state "tasks"
    statusOnAny state (orEmpty pointers) task route

def currentTaskIs (around : Surroundings Value) (statuses : List Status) : Except Error Bool := do
  let task ← currentTask valueView around
  let id ← entry valueView task "id"
  let route ← entry valueView task "route"
  let status ← taskStatus around id route
  .ok (statuses.any fun s => Value.str s.text == status)

def result {α : Type} (view : View α) (around : Surroundings α) : Except Error (Option α) := do
  let task ← currentTask view around
  match view.entries? task with
  | some entries => .ok ((entries.find? fun (k, _) => k == .str "result").map (·.2))
  | none => throw (Value.noAttribute (view.plain task) "get")

def item {α : Type} (view : View α) (around : Surroundings α) (key : Value) : Except Error α := do
  if !around.isSet then throw notSet
  let current ← around.find "__current_item"
  if !key.truthy then .ok current
  else
    match view.entries? current with
    | none => throw (.evaluation none "Item is not type of collections.Mapping.")
    | some entries =>
      if !key.hashable then throw key.unhashable
      match entries.find? fun (k, _) => k == key with
      | some (_, found) => .ok found
      | none => throw (.evaluation none ("Item does not have key \"" ++ key.text ++ "\"."))

def isHidden (key : String) : Bool := Text.startsWith key "__"

def ctx {α : Type} (view : View α) (around : Surroundings α) (key : Value) :
    Except Error (Found α) := do
  let context ← around.find "__vars"
  if key.truthy then
    match view.entries? context with
    | some entries =>
      if !key.hashable then throw key.unhashable
      match entries.find? fun (k, _) => k == key with
      | none => throw (.undefinedVariable key.text)
      | some (_, found) =>
        match key with
        | .str name => if isHidden name then throw (.hiddenVariable name) else .ok (.one found)
        | _ => throw (Value.noAttribute key "startswith")
    | none => do
      let held ← match key with
        | .str name => Value.holdsKey (view.plain context) name
        | _ => .ok false
      if held then throw (notSubscriptable (view.plain context))
      else throw (.undefinedVariable key.text)
  else
    match view.entries? context with
    | none => throw (Value.noAttribute (view.plain context) "items")
    | some entries => do
      let visible ← entries.filterM fun (k, _) =>
        match k with
        | .str name => .ok (!isHidden name)
        | _ => .error (Value.noAttribute k "startswith")
      .ok (.mapping visible)

def readJson (text : String) : Except Error Value :=
  match Json.readOr text with
  | .ok v => .ok v
  | .error message => .error (.broken .json message)

def notText : Error := .refused .type "Given object is not typeof string."

def json (v : Value) : Except Error Value :=
  match v with
  | .map _ => .ok v
  | .str s => readJson s
  | _ => .error notText

/-- Rows that take one item of each list; a list that is over gives `pad`. -/
def zipRows {α : Type} (pad : α) (lists : List (List α)) : List (List α) :=
  let rows := lists.foldl (fun n items => max n items.length) 0
  (List.range rows).map fun i => lists.map fun items => (items[i]?).getD pad

def zip (lists : List Value) (pad : Value) : Except Error Value := do
  match lists.map fun v => if v.isNull then Value.list [] else v with
  | [single] => .ok single
  | several => do
    let items ← several.mapM walk
    .ok (.list ((zipRows pad items).map .tuple))

end Functions

end Orchestration
