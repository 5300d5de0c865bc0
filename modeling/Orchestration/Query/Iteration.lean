import Orchestration.Query.Formula
import Orchestration.Query.Term
import Orchestration.Sorting

/-!
What is computed on demand.

An iterator has a state, which says where its next item comes from; taking an item changes the
state. All states are kept in one store. An `Engine` is what the functions of a query rely on: it
evaluates formulas, takes items from iterators and applies operators.
-/

namespace Orchestration.Query

/-- The variables in sight, the innermost first. -/
abbrev Scope := List (String × Term)

namespace Scope

/-- The bare mark stands for the first variable. -/
def normalName (name : String) : String := if name == "$" then "$1" else name

def get (scope : Scope) (name : String) : Term :=
  ((scope.find? fun (n, _) => n == normalName name).map (·.2)).getD Term.null

/-- Puts arguments in sight by their number. -/
def bind (scope : Scope) (arguments : List Term) : Scope :=
  (arguments.zipIdx.map fun (t, i) => ("$" ++ toString (i + 1), t)) ++ scope

end Scope

structure Closure where
  body : Formula
  scope : Scope

/-- The state of an iterator, or of a collection that is computed on demand. -/
inductive Cell where
  | items (type : String) (rest : List Term)
  | counting (type : String) (next step : Int) (stop : Option Int)
  | repeating (t : Term) (left : Option Nat)
  | mapped (source : Ref) (f : Closure)
  | members (source : Ref) (name : String)
  | filtered (source : Ref) (p : Closure)
  | dropping (source : Ref) (n : Nat)
  | taking (source : Ref) (n : Nat)
  | takingWhile (source : Ref) (p : Closure)
  | droppingWhile (source : Ref) (p : Closure)
  | passing (source : Ref)
  | chained (type : String) (current : Option Ref) (rest : List Term)
  | distinct (source : Ref) (key : Option Closure) (met : List Value)
  | enumerated (source : Ref) (next : Int)
  | expanded (source : Ref) (f : Closure) (inner : Option Ref)
  | flattened (sources : List Ref)
  /-- Items from `position` on, `count` of them, give way to some values. -/
  | replaced (source : Ref) (index position count : Int) (values : Option Term) (inner : Option Ref)
  /-- Some values are put before the item at `position`. -/
  | inserted (source : Ref) (index position : Int) (values : Term) (inner : Option Ref)
  | zipped (sources : List Ref)
  | zippedLongest (sources : List (Option Ref)) (fill : Term)
  | cycling (source : Option Ref) (seen rest : List Term)
  | accumulating (source : Ref) (f : Closure) (seed : Option Term) (isFirst : Bool)
  | sliced (source : Ref) (length : Nat)
  | matched (source : Ref) (others : List Term) (p f : Closure) (current : Option (Term × List Term))
  | grouped (rest : List (Term × Term)) (f : Closure)
  | holding (rest : List Closure) (index : Nat)
  /-- A collection in the order of some keys; it is sorted when it is first looked at. -/
  | ordered (source : Term) (keys : List (Closure × Bool)) (sorted : Option (List Term))

namespace Cell

def typeName : Cell → String
  | .items type _ | .counting type .. | .chained type .. => type
  | .repeating .. => "repeat"
  | .mapped .. | .members .. | .grouped .. => "map"
  | .filtered .. => "filter"
  | .dropping .. | .taking .. => "islice"
  | .takingWhile .. => "takewhile"
  | .droppingWhile .. | .passing _ => "dropwhile"
  | .zipped _ => "zip"
  | .zippedLongest .. => "zip_longest"
  | .cycling .. => "cycle"
  | .ordered .. => "OrderingIterable"
  | _ => "generator"

end Cell

abbrev Store := Array Cell

abbrev Work := StateT Store (Except Error)

structure Engine where
  evaluate : Formula → Scope → Work Term
  next : Ref → Work (Option Term)
  operate : String → List Term → Work Term

abbrev Eval := ReaderT Engine Work

def tooDeep : Error := .broken .recursion "maximum recursion depth exceeded"

def maxSteps : Nat := 10000000

def repeatUntil {α : Type} (step : Eval (Option α)) : Nat → Eval α
  | 0 => throw tooDeep
  | fuel + 1 => do
    match ← step with
    | some answer => return answer
    | none => repeatUntil step fuel

namespace Eval

def make (cell : Cell) : Eval Ref := modifyGet fun store => (store.size, store.push cell)

def put (ref : Ref) (cell : Cell) : Eval Unit := modify fun store => store.setIfInBounds ref cell

def iterator (cell : Cell) : Eval Term := do return .iterator (← make cell)

def next (ref : Ref) : Eval (Option Term) := do (← read).next ref

def operate (name : String) (arguments : List Term) : Eval Term := do
  (← read).operate name arguments

def evaluate (body : Formula) (scope : Scope) : Eval Term := do (← read).evaluate body scope

def apply (f : Closure) (arguments : List Term) : Eval Term :=
  evaluate f.body (f.scope.bind arguments)

def holds (p : Closure) (arguments : List Term) : Eval Bool := do
  return (← apply p arguments).truthy

def isLess (s t : Term) : Eval Bool := do return (← operate "#operator_<" [s, t]).truthy

def isGreater (s t : Term) : Eval Bool := do return (← operate "#operator_>" [s, t]).truthy

def typeName (t : Term) : Eval String := do
  match t with
  | .iterator ref => return (((← get)[ref]?).map Cell.typeName).getD t.typeName
  | _ => return t.typeName

def drain (ref : Ref) : Nat → Eval (List Term)
  | 0 => throw tooDeep
  | fuel + 1 => do
    match ← next ref with
    | none => return []
    | some t => return t :: (← drain ref fuel)

def comesBefore (keys : List (Closure × Bool)) (s t : Term) : Eval Bool := do
  match keys with
  | [] => return false
  | (f, ascends) :: rest =>
    let a ← apply f [s]
    let b ← apply f [t]
    if ← isLess a b then return ascends
    else if ← isGreater a b then return !ascends
    else comesBefore rest s t

mutual

/-- The items of a term that can be walked through; for others nothing. -/
def itemsWithin : Nat → Term → Eval (Option (List Term))
  | 0, _ => throw tooDeep
  | fuel + 1, t => do
    match t with
    | .tuple items | .list items | .set items => return some items
    | .view part _ entries => return some (Term.shownBy part entries)
    | .iterator ref => return some (← drain ref maxSteps)
    | .collection ref => return some (← sortedWithin fuel ref)
    | _ => return none

def sortedWithin : Nat → Ref → Eval (List Term)
  | 0, _ => throw tooDeep
  | fuel + 1, ref => do
    match (← get)[ref]? with
    | some (.ordered source keys none) =>
      let items := (← itemsWithin fuel source).getD []
      let sorted ← Sorting.sort (comesBefore keys) items
      put ref (.ordered source keys (some sorted))
      return sorted
    | some (.ordered _ _ (some sorted)) => return sorted
    | _ => return []

end

def maxNesting : Nat := 1000

def items? (t : Term) : Eval (Option (List Term)) := itemsWithin maxNesting t

def items (t : Term) : Eval (List Term) := do
  match ← items? t with
  | some found => return found
  | none => throw (Term.notIterable t)

def iterate (t : Term) : Eval Ref := do
  match t with
  | .iterator ref => return ref
  | .tuple found => make (.items "tuple_iterator" found)
  | .list found => make (.items "list_iterator" found)
  | .set found => make (.items "set_iterator" found)
  | _ => do make (.items "generator" (← items t))

/-- What can be walked through by anything, text and the keys of mappings included. -/
def walk (t : Term) : Eval (List Term) := do
  match t with
  | .atom (.str s) => return s.toList.map fun c => Term.str (String.singleton c)
  | .map _ entries => return entries.map fun (k, _) => Term.ofValue k
  | _ =>
    match ← items? t with
    | some found => return found
    | none => throw (.broken .type ("'" ++ (← typeName t) ++ "' object is not iterable"))

def isIterable : Term → Bool
  | .tuple _ | .list _ | .set _ | .view .. | .iterator _ | .collection _ => true
  | _ => false

def noProperty (name : String) : Error :=
  .broken .unknownFunction ("Unknown function \"#property#" ++ name ++ "\"")

/-- A member by its name: an entry of a mapping, or the members of all items. -/
def member (name : String) (t : Term) : Eval Term := do
  match t with
  | .map _ entries =>
    match Term.find? entries (.str name) with
    | some found => return found
    | none => throw (Term.missingKey (.str name))
  | _ => if isIterable t then iterator (.members (← iterate t) name) else throw (noProperty name)

end Eval

namespace Cell

open Eval

def stop : Eval (Option (Option Term)) := return some none

def give (t : Term) : Eval (Option (Option Term)) := return some (some t)

def again : Eval (Option (Option Term)) := return none

/-- The first that an inner iterator gives; when it is over, `others` come. -/
def fromInner (inner : Option Ref) (others : Eval (Option (Option Term))) :
    Eval (Option (Option Term)) := do
  match inner with
  | none => others
  | some ref =>
    match ← next ref with
    | some t => give t
    | none => others

/-- One item of each source, up to the first source that is over. -/
def oneOfEach : List Ref → Eval (Option (List Term))
  | [] => return some []
  | source :: rest => do
    match ← next source with
    | none => return none
    | some t => return (← oneOfEach rest).map (t :: ·)

/-- One item of each source; a source that is over gives `fill` from then on. -/
def oneOfEachOr (fill : Term) : List (Option Ref) → Eval (List Term × List (Option Ref))
  | [] => return ([], [])
  | none :: rest => do
    let (found, left) ← oneOfEachOr fill rest
    return (fill :: found, none :: left)
  | some source :: rest => do
    match ← next source with
    | some t =>
      let (found, left) ← oneOfEachOr fill rest
      return (t :: found, some source :: left)
    | none =>
      let (found, left) ← oneOfEachOr fill rest
      return (fill :: found, none :: left)

def upTo (source : Ref) : Nat → Eval (List Term)
  | 0 => return []
  | n + 1 => do
    match ← next source with
    | none => return []
    | some t => return t :: (← upTo source n)

def skip (source : Ref) : Nat → Eval Unit
  | 0 => return ()
  | n + 1 => do
    match ← next source with
    | none => return ()
    | some _ => skip source n

def isAmong (index position count : Int) : Bool :=
  if count < 0 then index ≥ position else position ≤ index && index < position + count

/-- Tries to take an item: an item, the end, or nothing yet. -/
def step (ref : Ref) (cell : Cell) : Eval (Option (Option Term)) := do
  match cell with
  | .items type rest =>
    match rest with
    | [] => stop
    | t :: rest => do
      put ref (.items type rest)
      give t
  | .counting type n by' limit =>
    let isOver := limit.any fun last => if by' ≥ 0 then n ≥ last else n ≤ last
    if isOver then stop
    else do
      put ref (.counting type (n + by') by' limit)
      give (.int n)
  | .repeating t left =>
    match left with
    | some 0 => stop
    | some (n + 1) => do
      put ref (.repeating t (some n))
      give t
    | none => give t
  | .mapped source f =>
    match ← next source with
    | none => stop
    | some t => do give (← apply f [t])
  | .members source name =>
    match ← next source with
    | none => stop
    | some t => do give (← member name t)
  | .filtered source p =>
    match ← next source with
    | none => stop
    | some t => do if ← holds p [t] then give t else again
  | .dropping source n => do
    skip source n
    put ref (.dropping source 0)
    return some (← next source)
  | .taking source n =>
    match n with
    | 0 => stop
    | n + 1 => do
      put ref (.taking source n)
      return some (← next source)
  | .takingWhile source p =>
    match ← next source with
    | none => stop
    | some t => do
      if ← holds p [t] then give t
      else
        put ref (.items "takewhile" [])
        stop
  | .droppingWhile source p =>
    match ← next source with
    | none => stop
    | some t => do
      if ← holds p [t] then again
      else
        put ref (.passing source)
        give t
  | .passing source => return some (← next source)
  | .chained type current rest =>
    fromInner current do
      match rest with
      | [] =>
        put ref (.chained type none [])
        stop
      | t :: rest => do
        put ref (.chained type (some (← iterate t)) rest)
        again
  | .distinct source key met =>
    match ← next source with
    | none => stop
    | some t => do
      let k ← match key with
        | none => pure t
        | some f => apply f [t]
      let v ← k.key
      if met.any (· == v) then again
      else
        put ref (.distinct source key (v :: met))
        give t
  | .enumerated source n =>
    match ← next source with
    | none => stop
    | some t => do
      put ref (.enumerated source (n + 1))
      give (.list [.int n, t])
  | .expanded source f inner =>
    fromInner inner do
      match ← next source with
      | none =>
        put ref (.expanded source f none)
        stop
      | some t => do
        let found ← apply f [t]
        if isIterable found then
          put ref (.expanded source f (some (← iterate found)))
          again
        else
          put ref (.expanded source f none)
          give found
  | .flattened sources =>
    match sources with
    | [] => stop
    | source :: rest =>
      match ← next source with
      | none => do
        put ref (.flattened rest)
        again
      | some t => do
        if isIterable t then
          put ref (.flattened ((← iterate t) :: sources))
          again
        else give t
  | .replaced source index position count values inner =>
    fromInner inner do
      match ← next source with
      | none =>
        put ref (.replaced source index position count values none)
        stop
      | some t => do
        if isAmong index position count then
          let inner ← values.mapM iterate
          put ref (.replaced source (index + 1) position count none inner)
          again
        else
          put ref (.replaced source (index + 1) position count values none)
          give t
  | .inserted source index position values inner =>
    fromInner inner do
      match ← next source with
      | none => do
        if position ≥ index then
          put ref (.chained "generator" none [values])
          again
        else
          put ref (.items "generator" [])
          stop
      | some t => do
        let inner ← if index == position then some <$> make (.chained "chain" none [values, .tuple [t]]) else pure none
        put ref (.inserted source (index + 1) position values inner)
        if index == position then again else give t
  | .zipped sources => do
    if sources.isEmpty then stop
    else
      match ← oneOfEach sources with
      | none => stop
      | some found => give (.tuple found)
  | .zippedLongest sources fill => do
    let (found, left) ← oneOfEachOr fill sources
    put ref (.zippedLongest left fill)
    if left.all Option.isNone then stop else give (.tuple found)
  | .cycling source seen rest =>
    match source with
    | some inner =>
      match ← next inner with
      | some t => do
        put ref (.cycling source (seen ++ [t]) [])
        give t
      | none => do
        put ref (.cycling none seen seen)
        if seen.isEmpty then stop else again
    | none =>
      match rest with
      | t :: rest => do
        put ref (.cycling none seen rest)
        give t
      | [] => do
        put ref (.cycling none seen seen)
        if seen.isEmpty then stop else again
  | .accumulating source f seed isFirst =>
    match seed, isFirst with
    | some t, true => do
      put ref (.accumulating source f seed false)
      give t
    | none, _ =>
      match ← next source with
      | none => throw (.broken .type "accumulate() of empty sequence with no initial value")
      | some t => do
        put ref (.accumulating source f (some t) false)
        give t
    | some total, false =>
      match ← next source with
      | none => stop
      | some t => do
        let total ← apply f [total, t]
        put ref (.accumulating source f (some total) false)
        give total
  | .sliced source length => do
    let found ← upTo source length
    if found.isEmpty then stop else give (.tuple found)
  | .matched source others p f current =>
    match current with
    | none | some (_, []) =>
      match ← next source with
      | none => stop
      | some t => do
        put ref (.matched source others p f (some (t, others)))
        again
    | some (t, u :: rest) => do
      put ref (.matched source others p f (some (t, rest)))
      if ← holds p [t, u] then give (← apply f [t, u]) else again
  | .grouped rest f =>
    match rest with
    | [] => stop
    | (key, found) :: rest => do
      put ref (.grouped rest f)
      give (.tuple [key, ← apply f [found]])
  | .holding rest index =>
    match rest with
    | [] => stop
    | p :: rest => do
      put ref (.holding rest (index + 1))
      if ← holds p [] then give (.int index) else again
  | .ordered .. => stop

def advance (ref : Ref) : Eval (Option Term) :=
  repeatUntil (do
    match (← get)[ref]? with
    | none => stop
    | some cell => step ref cell) maxSteps

end Cell

end Orchestration.Query
