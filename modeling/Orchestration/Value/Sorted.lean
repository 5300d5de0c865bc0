import Orchestration.Value.Order

/-!
Values with the keys of all mappings in order.
-/

namespace Orchestration.Value

def entryBefore (a b : Value × Value) : Bool := compareText a.1.text b.1.text != .gt

mutual

def sortKeys : Value → Value
  | .list items => .list (sortItems items)
  | .tuple items => .tuple (sortItems items)
  | .map entries => .map ((sortEntries entries).mergeSort entryBefore)
  | v => v

def sortItems : List Value → List Value
  | [] => []
  | v :: rest => sortKeys v :: sortItems rest

def sortEntries : List (Value × Value) → List (Value × Value)
  | [] => []
  | (k, v) :: rest => (k, sortKeys v) :: sortEntries rest

end

end Orchestration.Value
