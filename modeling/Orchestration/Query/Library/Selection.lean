import Orchestration.Query.Library.Collections

/-!
Functions of queries that go through items: choosing, changing, ordering, grouping and summing up.

Most of them give an iterator, so that a computation on an item is only carried out when that item
is asked for.
-/

namespace Orchestration.Query

namespace Selection

open Overload (required optional fixed onOne onTwo wrongCall)
open Numbers (wholeOr greater lesser testForm)
open Operators (termsOf)
open Collections (collection onCollection closureOr itemsOf isSequence)

/-- A form with one computation that makes an iterator. -/
def lazyForm (name parameter : String) (make : Ref → Closure → Cell) : Overload :=
  onCollection name .method [required parameter .lazily] fun
    | t, [.lazily f] => do Eval.iterator (make (← Eval.iterate t) f)
    | _, _ => wrongCall

/-- Goes through items up to the first on which `f` gives an answer. -/
def search (ref : Ref) (f : Term → Eval (Option Term)) (otherwise : Term) : Eval Term :=
  repeatUntil (do
    match ← Eval.next ref with
    | none => return some otherwise
    | some t => f t) maxSteps

def anyItem (t : Term) (p : Argument) : Eval Term := do
  search (← Eval.iterate t) (fun u =>
    match p with
    | .lazily f => do return if ← Eval.holds f [u] then some (Term.bool true) else none
    | _ => return some (Term.bool true)) (.bool false)

def allItems (t : Term) (p : Argument) : Eval Term := do
  search (← Eval.iterate t) (fun u => do
    return if (← closureOr p u).truthy then none else some (Term.bool false)) (.bool true)

def stopped {α : Type} : Eval α := throw (.broken .stopped "")

def orElse (found : Option Term) (fallback : Argument) : Eval Term :=
  match found, fallback with
  | some t, _ => return t
  | none, .term t => return t
  | none, _ => stopped

def single (t : Term) : Eval Term := do
  let ref ← Eval.iterate t
  match ← Eval.next ref with
  | none => stopped
  | some found =>
    match ← Eval.next ref with
    | none => return found
    | some _ => stopped

def emptyFold : Error := .broken .type "reduce() of empty iterable with no initial value"

def foldFrom (ref : Ref) (f : Term → Term → Eval Term) : Nat → Term → Eval Term
  | 0, _ => throw tooDeep
  | fuel + 1, total => do
    match ← Eval.next ref with
    | none => return total
    | some t => do foldFrom ref f fuel (← f total t)

def fold (t : Term) (f : Term → Term → Eval Term) (seed : Argument) : Eval Term := do
  let ref ← Eval.iterate t
  match seed with
  | .term start => foldFrom ref f maxSteps start
  | _ =>
    match ← Eval.next ref with
    | none => throw emptyFold
    | some start => foldFrom ref f maxSteps start

def foldForm (name : String) (f : Term → Term → Eval Term) : Overload :=
  onCollection name .method [optional "initial" .any] fun t rest => fold t f (rest.headD .missing)

def counted (n : Int) : Eval Nat :=
  if n < 0 then
    throw (.broken .value "Indices for islice() must be None or an integer: 0 <= x <= sys.maxsize.")
  else return n.toNat

def limitForm (name : String) : Overload :=
  onCollection name .method [required "count" .whole] fun t rest => do
    let n ← counted (wholeOr 0 (rest.headD .missing))
    Eval.iterator (.taking (← Eval.iterate t) n)

def plus (s t : Term) : Eval Term := Eval.operate "#operator_+" [s, t]

def orderForm (name : String) (ascends : Bool) : Overload :=
  onCollection name .method [required "selector" .lazily] fun
    | t, [.lazily f] => do return .collection (← Eval.make (.ordered t [(f, ascends)] none))
    | _, _ => wrongCall

def thenForm (name : String) (ascends : Bool) : Overload :=
  fixed name .method [required "collection" .ordering, required "selector" .lazily] fun
    | [.term (.collection ref), .lazily f] => do
      match (← get)[ref]? with
      | some (.ordered source keys sorted) =>
        Eval.put ref (.ordered source (keys ++ [(f, ascends)]) sorted)
        return .collection ref
      | _ => wrongCall
    | _ => wrongCall

/-- Items by their keys, in the order in which keys are met. -/
def addToGroup (groups : List (Value × List Term)) (key : Value) (t : Term) :
    List (Value × List Term) :=
  match groups with
  | [] => [(key, [t])]
  | (k, items) :: rest =>
    if k == key then (k, items ++ [t]) :: rest else (k, items) :: addToGroup rest key t

def grouped (items : List Term) (keyOf valueOf aggregator : Argument) : Eval Term := do
  let groups ← items.foldlM (fun groups t => do
    let v ← closureOr valueOf t
    let k ← closureOr keyOf t
    return addToGroup groups (← k.key) v) []
  let pairs := groups.map fun (k, found) => (Term.ofValue k, Term.list found)
  match aggregator with
  | .lazily f => Eval.iterator (.grouped pairs f)
  | _ => Eval.iterator (.items "map" (pairs.map fun (k, found) => .tuple [k, found]))

def rangeFrom (start stop step : Int) : Eval Term :=
  if step == 0 then throw (.broken .value "range() arg 3 must not be zero")
  else Eval.iterator (.counting "range_iterator" start step (some stop))

/-- The last of some items; a list is not gone through. -/
def lastItem (t : Term) (fallback : Argument) : Eval Term := do
  orElse (← Eval.items t).getLast? fallback

def placeOf (isLast : Bool) (t : Term) (p : Term → Eval Bool) : Eval Term := do
  let items ← Eval.items t
  let found ← items.zipIdx.foldlM (fun (found : Option Nat) (u, i) => do
    if found.isSome && !isLast then return found
    else if ← p u then return some i else return found) none
  return .int ((found.map Int.ofNat).getD (-1))

def defaultIfEmpty (t fallback : Term) : Eval Term := do
  match t with
  | .iterator _ | .collection _ | .view .values .. =>
    let kept ← Eval.make (.ordered t [] none)
    return if (← Eval.items (.collection kept)).isEmpty then fallback else .collection kept
  | _ => return if (← Eval.items t).isEmpty then fallback else t

def selector : Parameter := required "selector" .lazily

def predicate : Parameter := required "predicate" .lazily

end Selection

open Selection Collections Overload Numbers Operators in
def selectionFunctions : List Overload :=
  [lazyForm "where" "predicate" .filtered,
   lazyForm "filter" "predicate" .filtered,
   lazyForm "select" "selector" .mapped,
   lazyForm "map" "selector" .mapped,
   lazyForm "selectMany" "selector" fun ref f => .expanded ref f none,
   lazyForm "takeWhile" "predicate" .takingWhile,
   lazyForm "skipWhile" "predicate" .droppingWhile,
   onCollection "skip" .method [required "count" .whole] fun t rest => do
     let n ← counted (wholeOr 0 (rest.headD .missing))
     Eval.iterator (.dropping (← Eval.iterate t) n),
   limitForm "limit",
   limitForm "take",
   ⟨"append", .method, [collection], some .any, false, false, fun c =>
     match c.arguments with
     | [.term t] => Eval.iterator (.chained "generator" none [t, .tuple (termsOf c.more)])
     | _ => wrongCall⟩,
   onCollection "distinct" .both [optional "keySelector" .lazily] fun t rest => do
     let key := match rest with
       | [.lazily f] => some f
       | _ => none
     Eval.iterator (.distinct (← Eval.iterate t) key []),
   onCollection "enumerate" .both [optional "start" .whole] fun t rest => do
     Eval.iterator (.enumerated (← Eval.iterate t) (wholeOr 0 (rest.headD .missing))),
   onCollection "any" .method [optional "predicate" .lazily] fun t rest => anyItem t (rest.headD .missing),
   onCollection "all" .method [optional "predicate" .lazily] fun t rest => allItems t (rest.headD .missing),
   ⟨"concat", .both, [], some .iterable, false, false, fun c =>
     Eval.iterator (.chained "chain" none (termsOf c.more))⟩,
   onOne "len" .both "collection" .iterator fun t => do return .int (← Eval.items t).length,
   onCollection "count" .method [] fun t _ => do return .int (← Eval.items t).length,
   onCollection "memorize" .method [] fun t _ => do return .collection (← Eval.make (.ordered t [] none)),
   foldForm "sum" plus,
   foldForm "max" greater,
   foldForm "min" lesser,
   onCollection "first" .method [optional "default" .any] fun t rest => do
     orElse (← Eval.next (← Eval.iterate t)) (rest.headD .missing),
   onCollection "single" .method [] fun t _ => single t,
   onCollection "last" .method [optional "default" .any] fun t rest => lastItem t (rest.headD .missing),
   onOne "range" .function "stop" .whole fun t => rangeFrom 0 (wholeOr 0 (.term t)) 1,
   fixed "range" .function [required "start" .whole, required "stop" .whole, optional "step" .whole] fun
     | [start, stop, step] => rangeFrom (wholeOr 0 start) (wholeOr 0 stop) (wholeOr 1 step)
     | _ => wrongCall,
   fixed "sequence" .function [optional "start" .whole, optional "step" .whole] fun
     | [start, step] => Eval.iterator (.counting "count" (wholeOr 0 start) (wholeOr 1 step) none)
     | _ => wrongCall,
   orderForm "orderBy" true,
   orderForm "orderByDescending" false,
   thenForm "thenBy" true,
   thenForm "thenByDescending" false,
   onCollection "groupBy" .method
     [required "keySelector" .lazily, optional "valueSelector" .lazily, optional "aggregator" .lazily] fun
       | t, [key, value, aggregator] => do grouped (← Eval.items t) key value aggregator
       | _, _ => wrongCall,
   fixed "join" .method
     [required "collection1" .iterable, required "collection2" .iterable, predicate, selector] fun
       | [.term s, .term t, .lazily p, .lazily f] => do
         Eval.iterator (.matched (← Eval.iterate s) (← Eval.items t) p f none)
       | _ => wrongCall,
   ⟨"zip", .method, [collection], some .iterable, false, false, fun c => do
     Eval.iterator (.zipped (← (termsOf (c.arguments ++ c.more)).mapM Eval.iterate))⟩,
   fixed "repeat" .both [required "value" .any, optional "times" .whole] fun
     | [.term t, times] =>
       let n := wholeOr (-1) times
       Eval.iterator (.repeating t (if n < 0 then none else some n.toNat))
     | _ => wrongCall,
   onCollection "cycle" .method [] fun t _ => do Eval.iterator (.cycling (some (← Eval.iterate t)) [] []),
   onCollection "indexOf" .method [required "item" .any] fun
     | t, [.term item] => placeOf false t fun u => return u.same item
     | _, _ => wrongCall,
   onCollection "lastIndexOf" .method [required "item" .any] fun
     | t, [.term item] => placeOf true t fun u => return u.same item
     | _, _ => wrongCall,
   onCollection "indexWhere" .method [predicate] fun
     | t, [.lazily p] => placeOf false t fun u => Eval.holds p [u]
     | _, _ => wrongCall,
   onCollection "lastIndexWhere" .method [predicate] fun
     | t, [.lazily p] => placeOf true t fun u => Eval.holds p [u]
     | _, _ => wrongCall,
   onCollection "slice" .method [required "length" .whole] fun t rest => do
     let n ← counted (wholeOr 0 (rest.headD .missing))
     Eval.iterator (.sliced (← Eval.iterate t) n),
   onCollection "splitAt" .method [required "index" .whole] fun t rest => do
     let items ← Eval.items t
     let size : Int := items.length
     let n := wholeOr 0 (rest.headD .missing)
     return .list [.tuple (Text.slice items 0 n), .tuple (Text.slice items n size)],
   onCollection "aggregate" .method [selector, optional "seed" .any] fun
     | t, [.lazily f, seed] => fold t (fun s u => Eval.apply f [s, u]) seed
     | _, _ => wrongCall,
   onCollection "reduce" .method [selector, optional "seed" .any] fun
     | t, [.lazily f, seed] => fold t (fun s u => Eval.apply f [s, u]) seed
     | _, _ => wrongCall,
   onCollection "accumulate" .method [selector, optional "seed" .any] fun
     | t, [.lazily f, seed] => do
       let start := match seed with
         | .term s => some s
         | _ => none
       Eval.iterator (.accumulating (← Eval.iterate t) f start true)
     | _, _ => wrongCall,
   onCollection "reverse" .method [] fun t _ => do
     Eval.iterator (.items "reversed" (← Eval.items t).reverse),
   onCollection "defaultIfEmpty" .method [required "default" .any] fun
     | t, [.term fallback] => defaultIfEmpty t fallback
     | _, _ => wrongCall,
   testForm "isIterable" "value" Eval.isIterable]

end Orchestration.Query
