import Orchestration.Query.Library.Control

/-!
What queries mean.

A formula is evaluated in a scope. `a.b` asks the value of `a` for a member if `b` is a word, and
calls `b` on it if `b` is a call. The answer of a query is a plain value: all that is still to be
computed is computed then.
-/

namespace Orchestration.Query

namespace Eval

def noReceiver : Error := Overload.noMatch "#operator_." none

/-- What stands behind a point: a member, a method with its arguments, or nothing of the kind. -/
def follow (receiver : Term) (body : Formula) (scope : Scope) : Eval Term :=
  match body with
  | .word name => member name receiver
  | .call _ name arguments =>
    Overload.resolve library name (some receiver) (arguments.map .formula) scope
  | .variable _ => throw (Overload.unknown "#get_context_data" (some receiver))
  | _ => throw noReceiver

def canFollow : Formula → Bool
  | .word _ | .call .. | .variable _ => true
  | _ => false

def formula (f : Formula) (scope : Scope) : Eval Term :=
  match f with
  | .constant v => return .atom v
  | .word s => return .str s
  | .variable name => return scope.get name
  | .wrapped body => evaluate body scope
  | .call _ "#operator_." [left, right] => do
    if canFollow right then follow (← evaluate left scope) right scope else throw noReceiver
  | .call _ "#operator_?." [left, right] => do
    let receiver ← evaluate left scope
    if receiver.isNull then return receiver
    else if canFollow right then follow receiver right scope
    else throw noReceiver
  | .call _ name arguments => Overload.resolve library name none (arguments.map .formula) scope
  | .rule _ value => evaluate value scope
  | .absent => return Term.null

mutual

/-- The answer that a term gives: tuples, views of values and iterators become lists. -/
def answer : Nat → Term → Eval Value
  | 0, _ => throw tooDeep
  | fuel + 1, t =>
    match t with
    | .atom v => return v
    | .tuple found | .list found => do return .list (← answers fuel found)
    | .set found => do return .set (← distinctAnswers fuel found)
    | .view .values _ entries => do return .list (← answers fuel (entries.map (·.2)))
    | .view part _ entries => do return .set (← distinctAnswers fuel (Term.shownBy part entries))
    | .map _ entries => do return .map (← entryAnswers fuel [] entries)
    | .iterator ref => do return .list (← drained fuel ref)
    | .collection _ => do return .list (← answers fuel (← items t))
    | .scope _ => return .object "Context"

def answers : Nat → List Term → Eval (List Value)
  | 0, _ => throw tooDeep
  | _ + 1, [] => return []
  | fuel + 1, t :: rest => do
    let v ← answer fuel t
    return v :: (← answers fuel rest)

/-- The answers of the members of a set, which have to be fit for keys. -/
def distinctAnswers : Nat → List Term → Eval (List Value)
  | 0, _ => throw tooDeep
  | _ + 1, [] => return []
  | fuel + 1, t :: rest => do
    let v ← answer fuel t
    if v.hashable then return v :: (← distinctAnswers fuel rest)
    else throw (Term.unhashable v.typeName)

def entryAnswers : Nat → Entries → List (Value × Term) → Eval Entries
  | 0, _, _ => throw tooDeep
  | _ + 1, found, [] => return found
  | fuel + 1, found, (k, t) :: rest => do
    let v ← answer fuel t
    let key ← answer fuel (Term.ofValue k)
    if key.hashable then entryAnswers fuel (Entries.insert found key v) rest
    else throw (Term.unhashable key.typeName)

/-- The answers of all items that an iterator still gives; each is settled before the next is
taken. -/
def drained : Nat → Ref → Eval (List Value)
  | 0, _ => throw tooDeep
  | fuel + 1, ref => do
    match ← next ref with
    | none => return []
    | some t => do
      let v ← answer fuel t
      return v :: (← drained fuel ref)

end

end Eval

def maxDepth : Nat := 5000

def engine : Nat → Engine
  | 0 => ⟨fun _ _ => throw tooDeep, fun _ => throw tooDeep, fun _ _ => throw tooDeep⟩
  | depth + 1 =>
    ⟨fun f scope => (Eval.formula f scope).run (engine depth),
     fun ref => (Cell.advance ref).run (engine depth),
     fun name arguments =>
       (Overload.resolve library name none (arguments.map .term) []).run (engine depth)⟩

def answer (text : String) (scope : Scope) : Except Error Value := do
  let f ← Formula.parse text
  let work : Eval Value := do
    let t ← Eval.evaluate f scope
    Eval.answer maxSteps t
  let (v, _) ← (work.run (engine maxDepth)).run #[]
  return v

end Orchestration.Query
