/-!
Sorting with a comparison that may fail.

The run at the head of the list is found first: items that do not fall, or items that strictly fall
and are then turned round. Each further item is put into its place by halving. Items of the same
rank keep their order. Which pairs are compared matters, because a comparison may fail.
-/

namespace Orchestration.Sorting

variable {m : Type → Type} [Monad m] {α : Type}

/-- The items that continue a run behind `last`, and the rest. In a falling run each item comes
before the last one, in a rising run none does. -/
def run (before : α → α → m Bool) (falls : Bool) : α → List α → m (List α × List α)
  | _, [] => return ([], [])
  | last, next :: rest => do
    if (← before next last) == falls then
      let (found, others) ← run before falls next rest
      return (next :: found, others)
    else return ([], next :: rest)

/-- The place of an item among sorted ones, behind all that it does not come before. -/
def place (before : α → α → m Bool) (sorted : Array α) (item : α) : Nat → Nat → Nat → m Nat
  | 0, low, _ => return low
  | fuel + 1, low, high => do
    if low < high then
      let middle := low + (high - low) / 2
      match sorted[middle]? with
      | none => return low
      | some other =>
        if ← before item other then place before sorted item fuel low middle
        else place before sorted item fuel (middle + 1) high
    else return low

def insert (before : α → α → m Bool) (sorted : Array α) (item : α) : m (Array α) := do
  let i ← place before sorted item (sorted.size + 1) 0 sorted.size
  return sorted.insertIdxIfInBounds i item

def sort (before : α → α → m Bool) (items : List α) : m (List α) := do
  match items with
  | [] => return []
  | [item] => return [item]
  | first :: second :: rest => do
    let falls ← before second first
    let (found, others) ← run before falls second rest
    let head := first :: second :: found
    let sorted ← others.foldlM (insert before) (if falls then head.reverse else head).toArray
    return sorted.toList

end Orchestration.Sorting
