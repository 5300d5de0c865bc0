import Orchestration.Template.Operator

/-!
Putting items in order by a part of them.

The part is named by a path such as `a.0.b`, in which digits stand for an index. Text counts without
its case, unless asked otherwise.
-/

namespace Orchestration.Template.Eval

def pathParts (item : Item) : Except Error (List Item) :=
  match item with
  | .atom .null => .ok []
  | .atom (.str s) => (Text.splitText "." s).mapM fun part =>
      if Text.isAll Text.isDigitSign part then do .ok (.int (← (Value.str part).toWhole))
      else .ok (.str part)
  | item => .ok [item]

/-- Follows a path; what is not there is replaced by `other`, if that is not nothing. -/
def follow (other : Item) (path : List Item) (item : Item) : Eval Item :=
  path.foldlM (fun here part => do
    let next ← subscript here part
    return if next.isUndefined && !other.isNull then other else next) item

/-- An item as it counts in an order. -/
def ranked (caseSensitive : Bool) (item : Item) : Item :=
  match item with
  | .atom (.str s) => .str (if caseSensitive then s else Text.lower s)
  | _ => item

def rank (caseSensitive : Bool) (other : Item) (path : List Item) (item : Item) : Eval Item := do
  return ranked caseSensitive (← follow other path item)

/-- Whether one list of ranks comes before another one: the first two that differ decide. -/
def comesBefore : List Item → List Item → Eval Bool
  | [], bs => return !bs.isEmpty
  | _ :: _, [] => return false
  | a :: as, b :: bs => do if ← same a b then comesBefore as bs else isLess a b

def sortByRanks (isReverse : Bool) (pairs : List (List Item × Item)) : Eval (List Item) := do
  let before (a b : List Item × Item) : Eval Bool := comesBefore a.1 b.1
  let sorted ← Sorting.sort before (if isReverse then pairs.reverse else pairs)
  return (if isReverse then sorted.reverse else sorted).map (·.2)

/-- The item of the least or greatest rank; of several the first. -/
def extreme (comparison : Comparison) : List (Item × Item) → Eval Item
  | [] => return .undefined .undefined "No aggregated item, sequence was empty."
  | first :: rest => do
    let best ← rest.foldlM (fun best next => do
      return if ← ask (·.compares comparison next.1 best.1) then next else best) first
    return best.2

/-- Runs of pairs that have the same key. -/
def runsOf : List (Item × Item) → Eval (List (Item × List Item))
  | [] => return []
  | (k, item) :: rest => do
    match ← runsOf rest with
    | (l, items) :: others =>
      if ← same k l then return (k, item :: items) :: others
      else return (k, [item]) :: (l, items) :: others
    | [] => return [(k, [item])]

end Orchestration.Template.Eval
