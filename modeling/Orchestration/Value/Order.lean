import Orchestration.Error

/-!
The order of values.

Numbers are ordered among numbers, text among text, and lists item by item. Values of two different
kinds are in no order.
-/

namespace Orchestration

inductive Comparison where
  | less
  | lessOrSame
  | greater
  | greaterOrSame
  deriving DecidableEq, Repr

namespace Comparison

def symbol : Comparison → String
  | .less => "<"
  | .lessOrSame => "<="
  | .greater => ">"
  | .greaterOrSame => ">="

def holds : Comparison → Ordering → Bool
  | .less, o => o == .lt
  | .lessOrSame, o => o != .gt
  | .greater, o => o == .gt
  | .greaterOrSame, o => o != .lt

end Comparison

namespace Value

def compareChars : List Char → List Char → Ordering
  | [], [] => .eq
  | [], _ :: _ => .lt
  | _ :: _, [] => .gt
  | c :: cs, d :: ds => if c == d then compareChars cs ds else compare c.toNat d.toNat

def compareText (s t : String) : Ordering := compareChars s.toList t.toList

def noOrder (comparison : Comparison) (v w : Value) : Error :=
  .broken .type ("'" ++ comparison.symbol ++ "' not supported between instances of '" ++ v.typeName ++
    "' and '" ++ w.typeName ++ "'")

def unhashable (v : Value) : Error := .broken .type ("unhashable type: '" ++ v.typeName ++ "'")

def isSubset (xs ys : List Value) : Bool := xs.all fun x => ys.any (· == x)

def holdsForSets (comparison : Comparison) (xs ys : List Value) : Bool :=
  match comparison with
  | .less => isSubset xs ys && xs.length < ys.length
  | .lessOrSame => isSubset xs ys
  | .greater => isSubset ys xs && ys.length < xs.length
  | .greaterOrSame => isSubset ys xs

mutual

def compares (comparison : Comparison) : Value → Value → Except Error Bool
  | .list xs, .list ys => comparesItems comparison xs ys
  | .tuple xs, .tuple ys => comparesItems comparison xs ys
  | .str s, .str t => .ok (comparison.holds (compareText s t))
  | .set xs, .set ys => .ok (holdsForSets comparison xs ys)
  | .date d, .date e => .ok (comparison.holds (compare d.ordinal e.ordinal))
  | .moment m, .moment n =>
    if m.offset.isSome == n.offset.isSome then
      .ok (comparison.holds ((compare m.seconds n.seconds).then (compare m.micro n.micro)))
    else .error (.broken .type "can't compare offset-naive and offset-aware datetimes")
  | v, w =>
    match numeric? v, numeric? w with
    | some a, some b => .ok ((a.compare? b).any comparison.holds)
    | _, _ => .error (noOrder comparison v w)

def comparesItems (comparison : Comparison) : List Value → List Value → Except Error Bool
  | [], [] => .ok (comparison.holds .eq)
  | [], _ :: _ => .ok (comparison.holds .lt)
  | _ :: _, [] => .ok (comparison.holds .gt)
  | x :: xs, y :: ys => if x == y then comparesItems comparison xs ys else compares comparison x y

end

def less (v w : Value) : Except Error Bool := compares .less v w

/-- Puts an item before the first of the sorted items that is greater. -/
def insertSorted {α : Type} (lessThan : α → α → Except Error Bool) (v : α) :
    List α → Except Error (List α)
  | [] => .ok [v]
  | w :: rest => do
    if ← lessThan v w then .ok (v :: w :: rest)
    else do
      let rest ← insertSorted lessThan v rest
      .ok (w :: rest)

/-- Sorts and keeps items of the same rank in their order. -/
def sortBy {α : Type} (lessThan : α → α → Except Error Bool) (items : List α) :
    Except Error (List α) :=
  items.foldlM (fun sorted v => insertSorted lessThan v sorted) []

def sort (items : List Value) : Except Error (List Value) := sortBy less items

/-- Sorts text; there all items are in order. -/
def sortTexts (texts : List String) : List String :=
  texts.mergeSort fun s t => compareText s t != .gt

end Value

end Orchestration
