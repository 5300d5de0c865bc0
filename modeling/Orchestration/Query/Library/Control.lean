import Orchestration.Query.Library.Selection

/-!
Functions of queries that choose what is computed, and those that ask about the workflow.
-/

namespace Orchestration.Query

namespace Control

open Overload (required optional fixed wrongCall)
open Operators (termsOf)
open Numbers (wholeOr)

def firstRule : List Argument → Eval Term
  | [] => return Term.null
  | .rule key value :: rest => do
    if ← Eval.holds key [] then Eval.apply value [] else firstRule rest
  | _ :: _ => wrongCall

def firstGiven : List Argument → Eval Term
  | [] => return Term.null
  | .lazily f :: rest => do
    let t ← Eval.apply f []
    if t.isNull then firstGiven rest else return t
  | _ :: _ => wrongCall

/-- The place of the first of some conditions that holds, or their number. -/
def firstCase (place : Nat) : List Argument → Eval Term
  | [] => return .int place
  | .lazily p :: rest => do
    if ← Eval.holds p [] then return .int place else firstCase (place + 1) rest
  | _ :: _ => wrongCall

def closuresOf (arguments : List Argument) : List Closure :=
  arguments.filterMap fun
    | .lazily f => some f
    | _ => none

/-- Brings arguments into sight, by number and by name. -/
def widened (call : Call) : Scope :=
  let named := call.named.filterMap fun
    | (name, .term t) => some (Scope.normalName ("$" ++ name), t)
    | _ => none
  named.reverse ++ call.scope.bind (termsOf call.more)

def view : View Term where
  plain := Term.plain
  entries?
    | .map _ entries => some entries
    | _ => none

/-- What surrounds a query is kept among its variables. -/
def surroundings (scope : Scope) : Surroundings Term where
  isSet := true
  find name := .ok (scope.get ("$" ++ name))

def plainSurroundings (scope : Scope) : Surroundings Value where
  isSet := true
  find name := .ok (scope.get ("$" ++ name)).plain

def ofFound : Found Term → Term
  | .one t => t
  | .mapping entries => .map false entries
  | .value v => Term.fresh v

def keyOf : Argument → Value
  | .term t => t.plain
  | _ => .null

def json (t : Term) : Eval Term :=
  match t with
  | .map false _ => return t
  | .atom (.str s) => do return Term.fresh (← Functions.readJson s)
  | _ => throw Functions.notText

def zip (lists : List Term) (pad : Term) : Eval Term :=
  match lists.map fun t => if t.isNull then Term.list [] else t with
  | [single] => return single
  | several => do
    let rows := Functions.zipRows pad (← several.mapM Eval.walk)
    return .list (rows.map .tuple)

def padOf (named : List (String × Argument)) : Term :=
  match named.find? (·.1 == "pad") with
  | some (_, .term t) => t
  | _ => Term.null

def inSight (name : String) (parameters : List Parameter)
    (body : Scope → List Argument → Eval Term) :
    Overload :=
  ⟨name, .function, parameters, none, false, false, fun c => body c.scope c.arguments⟩

def statusTest (name : String) (statuses : List Status) : Overload :=
  inSight name [] fun scope _ => do
    return .bool (← Functions.currentTaskIs (plainSurroundings scope) statuses)

end Control

open Control Overload in
def controlFunctions : List Overload :=
  [⟨"switch", .function, [], some .rule, false, true, fun c => firstRule c.more⟩,
   ⟨"coalesce", .function, [], some .lazily, false, false, fun c => firstGiven c.more⟩,
   ⟨"selectCase", .function, [], some .lazily, false, false, fun c => firstCase 0 c.more⟩,
   ⟨"selectAllCases", .function, [], some .lazily, false, false, fun c =>
     Eval.iterator (.holding (closuresOf c.more) 0)⟩,
   ⟨"let", .function, [], some .any, true, false, fun c => return .scope (widened c)⟩,
   ⟨"with", .function, [], some .any, false, false, fun c => return .scope (widened c)⟩,
   inSight "ctx" [optional "key" .any] fun scope arguments => do
     return ofFound (← Functions.ctx view (surroundings scope) (keyOf (arguments.headD .missing))),
   inSight "item" [optional "key" .any] fun scope arguments => do
     Functions.item view (surroundings scope) (keyOf (arguments.headD .missing)),
   inSight "result" [] fun scope _ => do
     return (← Functions.result view (surroundings scope)).getD Term.null,
   fixed "json" .function [required "s" .any] fun
     | [.term t] => json t
     | _ => wrongCall,
   ⟨"zip", .function, [], some .any, true, false, fun c => zip (Operators.termsOf c.more) (padOf c.named)⟩,
   inSight "task_status" [required "taskId" .any, optional "route" .any] fun scope arguments =>
     match arguments with
     | [task, route] => do
       return .atom (← Functions.taskStatus (plainSurroundings scope) (keyOf task) (keyOf route))
     | _ => wrongCall,
   statusTest "succeeded" [.succeeded],
   statusTest "failed" [.failed],
   statusTest "completed" Status.completed]

def library : List Overload :=
  operators ++ numberFunctions ++ textFunctions ++ collectionFunctions ++ selectionFunctions ++ controlFunctions

end Orchestration.Query
