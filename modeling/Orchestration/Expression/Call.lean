import Orchestration.Expression.Functions

/-!
Calling a function by its name.

A function has parameters that must be given and some that may be left out. Arguments come in order
or by name. Every function but two takes the surroundings as its first argument.
-/

namespace Orchestration

structure Signature where
  title : String
  required : List String
  optional : List String

namespace Signature

def size (s : Signature) : Nat := s.required.length + s.optional.length

def wrong (s : Signature) (text : String) : Error := .broken .type (s.title ++ "() " ++ text)

def plural (n : Nat) : String := if n == 1 then "" else "s"

def tooMany (s : Signature) (given : Nat) : Error :=
  let takes :=
    if s.optional.isEmpty then
      toString s.required.length ++ " positional argument" ++ plural s.required.length
    else "from " ++ toString s.required.length ++ " to " ++ toString s.size ++ " positional arguments"
  s.wrong ("takes " ++ takes ++ " but " ++ toString given ++
    (if given == 1 then " was given" else " were given"))

def enumerated : List String → String
  | [] => ""
  | [a] => a
  | [a, b] => a ++ " and " ++ b
  | words => ", ".intercalate words.dropLast ++ ", and " ++ words.getLastD ""

def missing (s : Signature) (names : List String) : Error :=
  s.wrong ("missing " ++ toString names.length ++ " required positional argument" ++
    plural names.length ++ ": " ++ enumerated (names.map Text.quoted))

def bind {α : Type} (s : Signature) (arguments : List α) (named : List (String × α)) :
    Except Error (List (Option α)) := do
  let names := s.required ++ s.optional
  for (name, _) in named do
    match names.findIdx? (· == name) with
    | none => throw (s.wrong ("got an unexpected keyword argument " ++ Text.quoted name))
    | some i =>
      if i < arguments.length then
        throw (s.wrong ("got multiple values for argument " ++ Text.quoted name))
  if arguments.length > names.length then throw (s.tooMany arguments.length)
  let given := names.zipIdx.map fun (name, i) =>
    (arguments[i]?).or ((named.find? (·.1 == name)).map (·.2))
  let absent :=
    (s.required.zip given).filterMap fun (name, v) => if v.isNone then some name else none
  if absent.isEmpty then return given else throw (s.missing absent)

end Signature

namespace Functions

def names : List String :=
  ["completed", "ctx", "failed", "item", "json", "result", "succeeded", "task_status", "zip"]

def takesSurroundings (name : String) : Bool := name != "json" && name != "zip"

def signature (name : String) : Signature :=
  match name with
  | "ctx" => ⟨"ctx_", ["context"], ["key"]⟩
  | "item" => ⟨"item_", ["context"], ["key"]⟩
  | "task_status" => ⟨"task_status_", ["context", "task_id"], ["route"]⟩
  | "json" => ⟨"json_", ["s"], []⟩
  | other => ⟨other ++ "_", ["context"], []⟩

variable {α : Type}

def surroundingsIn (view : View α) (context : α) : Surroundings α where
  isSet := (view.plain context).truthy
  find name := entry view context name

def call (view : View α) (name : String) (arguments : List α) (named : List (String × α)) :
    Except Error (Found α) := do
  if name == "zip" then
    let pad := ((named.find? (·.1 == "pad")).map fun (_, v) => view.plain v).getD .null
    match arguments with
    | [single] => return if (view.plain single).isNull then .value (.list []) else .one single
    | _ => return .value (← zip (arguments.map view.plain) pad)
  else
    let given ← (signature name).bind arguments named
    match given.headD none with
    | none => throw ((signature name).missing (signature name).required)
    | some context =>
      let argument (i : Nat) : Value := ((given[i]?.join).map view.plain).getD .null
      let around := surroundingsIn view context
      let plainly := surroundings (view.plain context)
      match name with
      | "ctx" => ctx view around (argument 1)
      | "item" => return .one (← item view around (argument 1))
      | "result" => return ((← result view around).map .one).getD (.value .null)
      | "task_status" => return .value (← taskStatus plainly (argument 1) (argument 2))
      | "succeeded" => return .value (.bool (← currentTaskIs plainly [.succeeded]))
      | "failed" => return .value (.bool (← currentTaskIs plainly [.failed]))
      | "completed" => return .value (.bool (← currentTaskIs plainly Status.completed))
      | _ =>
        match view.plain context with
        | .map _ => return .one context
        | v => return .value (← json v)

def onValues (name : String) (arguments : List Value) (named : List (String × Value)) :
    Except Error Value := do
  return (← call valueView name arguments named).toValue

end Functions

end Orchestration
