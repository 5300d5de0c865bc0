import Orchestration.Expression.Functions
import Orchestration.Query.Overload

/-!
Operators of queries.

Numbers are computed with numbers and text with text; nothing is converted. The quotient of two
whole numbers is rounded down. `null` comes before everything else. Lists that are joined give a
list only if both are fixed; otherwise their items come one after the other on demand.
-/

namespace Orchestration.Query

namespace Operators

open Overload (required fixed onOne onTwo wrongCall)

def left (kind : Kind) : Parameter := required "left" kind

def right (kind : Kind) : Parameter := required "right" kind

def onBoth (symbol : String) (first second : Kind) (f : Term → Term → Eval Term) : Overload :=
  onTwo ("#operator_" ++ symbol) .function (left first) (right second) f

def onAtoms (f : Value → Value → Except Error Value) (s t : Term) : Eval Term := do
  return .atom (← f s.plain t.plain)

def numbers (symbol : String) (f : Value → Value → Except Error Value) : Overload :=
  onBoth symbol .number .number (onAtoms f)

def quotient (v w : Value) : Except Error Value :=
  match v, w with
  | .int _, .int _ => v.floorDivide w
  | _, _ => v.divide w

def union (xs ys : List Term) : List Term :=
  Term.membersInOrder (xs ++ ys.filter fun y => !xs.any (Term.same y))

def joinLists (s t : Term) : Eval Term :=
  match s, t with
  | .tuple xs, .tuple ys => return .tuple (xs ++ ys)
  | .set xs, .set ys => return .set (union xs ys)
  | _, _ => Eval.iterator (.chained "chain" none [s, t])

/-- The entries of both; those of the second win. -/
def merged (left right : List (Value × Term)) : List (Value × Term) :=
  right.foldl (fun es (k, v) => Term.put es k v) left

def joinMaps (s t : Term) : Eval Term :=
  match s, t with
  | .map _ left, .map _ right => return .map true (merged left right)
  | _, _ => wrongCall

def repeated (s t : Term) : Eval Term :=
  match s, t.whole? with
  | .tuple items, some n => return .tuple (Value.repeatItems items n)
  | .list items, some n => return .list (Value.repeatItems items n)
  | _, _ => onAtoms Value.mul s t

def membersOf : Term → List Term
  | .set items => items
  | .view part _ entries => Term.shownBy part entries
  | _ => []

def comparison (c : Comparison) : List Overload :=
  let plainly (s t : Term) : Eval Term := do return .bool (← Value.compares c s.plain t.plain)
  [onBoth c.symbol .number .number plainly,
   onBoth c.symbol .text .text plainly,
   onBoth c.symbol .members .members plainly,
   onBoth c.symbol .null .null fun _ _ => return .bool (c.holds .eq),
   onBoth c.symbol .null .given fun _ _ => return .bool (c.holds .lt),
   onBoth c.symbol .given .null fun _ _ => return .bool (c.holds .gt)]

/-- Whether an iterator gives a term; it is left behind the first one found. -/
def gives (ref : Ref) (t : Term) : Eval Bool :=
  repeatUntil (do
    match ← Eval.next ref with
    | none => return some false
    | some u => return if u.same t then some true else none) maxSteps

def holds (collection t : Term) : Eval Term := do
  match collection with
  | .set items => do
    let v ← t.key
    return .bool (items.any fun u => u.plain == v)
  | .view .keys _ entries => do
    let v ← t.key
    return .bool (Term.find? entries v).isSome
  | .iterator ref => return .bool (← gives ref t)
  | _ => return .bool ((← Eval.items collection).any (Term.same t))

def indexed (s t : Term) : Eval Term :=
  match s, t.whole? with
  | .tuple items, some n | .list items, some n =>
    match Functions.itemAt? items n with
    | some found => return found
    | none => throw (.broken .index (s.typeName ++ " index out of range"))
  | _, _ => wrongCall

def entryOf (s t : Term) : Eval Term :=
  match s with
  | .map _ entries => do
    let key ← t.key
    match Term.find? entries key with
    | some found => return found
    | none => throw (Term.missingKey key)
  | _ => wrongCall

def entryOr (s t fallback : Term) : Eval Term :=
  match s with
  | .map _ entries => do return (Term.find? entries (← t.key)).getD fallback
  | _ => wrongCall

def withRules (rules : List Argument) (entries : List (Value × Term)) :
    Eval (List (Value × Term)) :=
  rules.foldlM (fun entries argument =>
    match argument with
    | .rule key value => do
      let k ← Eval.apply key []
      let v ← Eval.apply value []
      return Term.put entries (← k.key) v
    | _ => wrongCall) entries

def termsOf (arguments : List Argument) : List Term :=
  arguments.filterMap fun
    | .term t => some t
    | _ => none

def lazilyBoth (name : String) (f : Eval Term → Eval Term → Eval Term) : Overload :=
  fixed name .function [left .lazily, right .lazily] fun
    | [.lazily a, .lazily b] => f (Eval.apply a []) (Eval.apply b [])
    | _ => wrongCall

end Operators

open Operators Overload in
def operators : List Overload :=
  [numbers "+" Value.add,
   onBoth "+" .text .text (onAtoms Value.add),
   onBoth "+" .iterable .iterable joinLists,
   onBoth "+" .mapping .mapping joinMaps,
   numbers "-" Value.sub,
   onBoth "-" .members .members fun s t => do
     return .set ((membersOf s).filter fun u => !(membersOf t).any (Term.same u)),
   numbers "*" Value.mul,
   onBoth "*" .text .whole (onAtoms Value.mul),
   onBoth "*" .whole .text (onAtoms Value.mul),
   onBoth "*" .sequence .whole repeated,
   onBoth "*" .whole .sequence fun s t => repeated t s,
   numbers "/" quotient,
   numbers "mod" Value.modulo,
   onOne "#unary_operator_-" .function "op" .number fun t => do return .atom (← t.plain.negate),
   onOne "#unary_operator_+" .function "op" .number fun t => do return .atom (← t.plain.affirm),
   onOne "#unary_operator_not" .function "arg" .any fun t => return .bool (!t.truthy),
   onTwo "*equal" .function (left .any) (right .any) fun s t => return .bool (s.same t),
   onTwo "*not_equal" .function (left .any) (right .any) fun s t => return .bool (!s.same t),
   onBoth "in" .text .text fun s t => return .bool (Text.contains t.text s.text),
   onBoth "in" .any .iterable fun s t => holds t s,
   lazilyBoth "#operator_and" fun a b => do
     let first ← a
     if first.truthy then b else return first,
   lazilyBoth "#operator_or" fun a b => do
     let first ← a
     if first.truthy then return first else b,
   onTwo "#indexer" .function (required "collection" .sequence) (required "index" .whole) indexed,
   onTwo "#indexer" .function (required "dict" .mapping) (required "key" .any) entryOf,
   fixed "#indexer" .function
     [required "dict" .mapping, required "key" .any, required "default" .any] fun
       | [.term s, .term t, .term fallback] => entryOr s t fallback
       | _ => wrongCall,
   ⟨"#list", .function, [], some .any, false, false, fun c => return .tuple (termsOf c.more)⟩,
   ⟨"#map", .function, [], some .rule, false, true, fun c => do return .map true (← withRules c.more [])⟩,
   fixed "#operator_->" .function [left .scope, right .lazily] fun
     | [.term (.scope bindings), .lazily f] => Eval.evaluate f.body bindings
     | _ => wrongCall]
  ++ comparison .less ++ comparison .greater ++ comparison .lessOrSame ++ comparison .greaterOrSame

end Orchestration.Query
