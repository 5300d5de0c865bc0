import Orchestration.Template.CollectionMethod
import Orchestration.Value.Arithmetic

/-!
Operators of templates.

Lists and tuples that are joined or repeated share their parts. Everything else is computed on
values.
-/

namespace Orchestration.Template.Eval

def plainly (f : Value → Value → Except Error Value) (left right : Item) : Eval Item := do
  ofValue (← settle (f (← plain left) (← plain right)))

def add (left right : Item) : Eval Item := do
  match left, right with
  | .list r, .list s => list ((← get).listAt r ++ (← get).listAt s)
  | .tuple xs, .tuple ys => return .tuple (xs ++ ys)
  | _, _ => plainly Value.add left right

def multiply (left right : Item) : Eval Item := do
  match left, right with
  | .list ref, .atom v | .atom v, .list ref =>
    match v.asInt? with
    | some n => list (Value.repeatItems ((← get).listAt ref) n)
    | none => plainly Value.mul left right
  | .tuple items, .atom v | .atom v, .tuple items =>
    match v.asInt? with
    | some n => return .tuple (Value.repeatItems items n)
    | none => plainly Value.mul left right
  | _, _ => plainly Value.mul left right

def modulo (left right : Item) : Eval Item := do
  match left with
  | .atom (.str s) => percent s right
  | _ => plainly Value.modulo left right

def calculate (operator : Binary) (left right : Item) : Eval Item := do
  let left ← require left
  let right ← match left, operator with
    | .atom (.str _), .mod => pure right
    | _, _ => require right
  match operator with
  | .add => add left right
  | .sub => plainly Value.sub left right
  | .mul => multiply left right
  | .div => plainly Value.divide left right
  | .floorDiv => plainly Value.floorDivide left right
  | .mod => modulo left right
  | .pow => plainly Value.power left right
  | .and | .or => return right

/-- Looks for an item among those that a cursor gives, up to the one that is found. -/
def meets (item : Item) (ref : Ref) : Nat → Eval Bool
  | 0 => throw tooDeep
  | fuel + 1 => do
    match ← next ref with
    | none => return false
    | some other => if ← same other item then return true else meets item ref fuel

def isIn (item container : Item) : Eval Bool := do
  match container with
  | .undefined fault text => throw (.broken fault text)
  | .atom (.str s) =>
    match item.text? with
    | some word => return Text.contains s word
    | none => throw (Given.wrong ("'in <string>' requires string as left operand, not " ++ (← typeName item)))
  | .map ref | .view .keys ref =>
    let k ← key item
    return (Store.find? ((← get).entriesAt ref) k).isSome
  | .atom (.set items) =>
    let k ← key item
    return items.any (· == k)
  | .cursor ref => meets item ref maxSteps
  | _ =>
    match (← get).parts? container with
    | some parts => parts.anyM fun other => same other item
    | none =>
      throw (Given.wrong ("argument of type '" ++ (← typeName container) ++ "' is not iterable"))

def comparison? : String → Option Comparison
  | ">" => some .greater
  | ">=" => some .greaterOrSame
  | "<" => some .less
  | "<=" => some .lessOrSame
  | _ => none

def comparesBy (symbol : String) (left right : Item) : Eval Bool := do
  match comparison? symbol with
  | some comparison => ask (·.compares comparison left right)
  | none =>
    match symbol with
    | "in" => isIn left right
    | "not in" => return !(← isIn left right)
    | "!=" => return !(← same left right)
    | _ => same left right

end Orchestration.Template.Eval
