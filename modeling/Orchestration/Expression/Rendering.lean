import Orchestration.Expression.Basic
import Orchestration.Value.Merge

/-!
Values that are rendered one after the other.

Each value gets a name, under which the values after it can use it. An expression that cannot be
evaluated is noted, and the next value is rendered.
-/

namespace Orchestration

variable [Engine]

structure Rendering where
  context : Node
  values : List (Value × Node)
  errors : List Error
  /-- The next mark for a mapping that nothing else holds. -/
  nextMark : Nat

namespace Rendering

def start (context : Value) (nextMark : Nat) : Rendering :=
  let (context, nextMark) := (Node.ofValue context.copy).stamp nextMark
  ⟨context, [], [], nextMark⟩

def put (context : Node) (name : Value) (n : Node) : Except Error Node :=
  match context with
  | .map mark entries => .ok (.map mark (Node.put entries name n))
  | other => .error (.broken .type ("'" ++ other.toValue.typeName ++ "' object does not support item assignment"))

def assign (r : Rendering) (name statement : Value) : Except Error Rendering :=
  match Expression.evaluate r.context statement with
  | .ok n => do
    let (n, nextMark) := n.stamp r.nextMark
    .ok { r with context := ← put r.context name n, values := Node.put r.values name n, nextMark := nextMark }
  | .error (.evaluation language text) =>
    .ok { r with errors := r.errors ++ [.evaluation language text] }
  | .error e => .error e

def entryOf (v : Value) : Except Error (Value × Value) :=
  match v with
  | .map ((k, w) :: _) => .ok (k, w)
  | .map [] => .error (.broken .index "list index out of range")
  | _ => .error (Value.noAttribute v "items")

def assignAll (r : Rendering) (entries : List Value) : Except Error Rendering :=
  entries.foldlM (fun r v => do
    let (name, statement) ← entryOf v
    r.assign name statement) r

end Rendering

end Orchestration
