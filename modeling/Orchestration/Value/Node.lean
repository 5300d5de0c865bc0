import Orchestration.Value.Copy

/-!
Nodes: values that may be held in several places.

A mapping in a node has a mark. Mappings with the same mark are one and the same: whoever writes to
one of them writes to all of them. The mark zero is given to mappings that nothing else holds.
-/

namespace Orchestration

inductive Node where
  | atom (v : Value)
  | list (items : List Node)
  | tuple (items : List Node)
  | map (mark : Nat) (entries : List (Value × Node))
  deriving Inhabited

namespace Node

def null : Node := .atom .null

mutual

/-- A value that nothing else holds. -/
def ofValue : Value → Node
  | .list items => .list (ofItems items)
  | .tuple items => .tuple (ofItems items)
  | .map entries => .map 0 (ofEntries entries)
  | v => .atom v

def ofItems : List Value → List Node
  | [] => []
  | v :: rest => ofValue v :: ofItems rest

def ofEntries : List (Value × Value) → List (Value × Node)
  | [] => []
  | (k, v) :: rest => (k, ofValue v) :: ofEntries rest

end

mutual

def toValue : Node → Value
  | .atom v => v
  | .list items => .list (toValues items)
  | .tuple items => .tuple (toValues items)
  | .map _ entries => .map (toEntries entries)

def toValues : List Node → List Value
  | [] => []
  | n :: rest => toValue n :: toValues rest

def toEntries : List (Value × Node) → List (Value × Value)
  | [] => []
  | (k, n) :: rest => (k, toValue n) :: toEntries rest

end

mutual

/-- Gives marks of their own, from `next` on, to the mappings that have none. -/
def stamp (next : Nat) : Node → Node × Nat
  | .atom v => (.atom v, next)
  | .list items =>
    let (items, next) := stampItems next items
    (.list items, next)
  | .tuple items =>
    let (items, next) := stampItems next items
    (.tuple items, next)
  | .map mark entries =>
    let (entries, next) := stampEntries next entries
    if mark == 0 then (.map next entries, next + 1) else (.map mark entries, next)

def stampItems (next : Nat) : List Node → List Node × Nat
  | [] => ([], next)
  | n :: rest =>
    let (n, next) := stamp next n
    let (rest, next) := stampItems next rest
    (n :: rest, next)

def stampEntries (next : Nat) : List (Value × Node) → List (Value × Node) × Nat
  | [] => ([], next)
  | (k, n) :: rest =>
    let (n, next) := stamp next n
    let (rest, next) := stampEntries next rest
    ((k, n) :: rest, next)

end

mutual

def shift (up : Nat) : Node → Node
  | .atom v => .atom v
  | .list items => .list (shiftItems up items)
  | .tuple items => .tuple (shiftItems up items)
  | .map mark entries => .map (mark + up) (shiftEntries up entries)

def shiftItems (up : Nat) : List Node → List Node
  | [] => []
  | n :: rest => shift up n :: shiftItems up rest

def shiftEntries (up : Nat) : List (Value × Node) → List (Value × Node)
  | [] => []
  | (k, n) :: rest => (k, shift up n) :: shiftEntries up rest

end

mutual

/-- The first number from which on no mark is taken. -/
def limit : Node → Nat
  | .atom _ => 1
  | .list items | .tuple items => limitOfItems items
  | .map mark entries => max (mark + 1) (limitOfEntries entries)

def limitOfItems : List Node → Nat
  | [] => 1
  | n :: rest => max (limit n) (limitOfItems rest)

def limitOfEntries : List (Value × Node) → Nat
  | [] => 1
  | (_, n) :: rest => max (limit n) (limitOfEntries rest)

end

def truthy : Node → Bool
  | .atom v => v.truthy
  | .list items | .tuple items => !items.isEmpty
  | .map _ entries => !entries.isEmpty

def isMap : Node → Bool
  | .map _ _ => true
  | _ => false

def find? (entries : List (Value × Node)) (key : Value) : Option Node :=
  (entries.find? fun (k, _) => k == key).map (·.2)

def put (entries : List (Value × Node)) (key : Value) (n : Node) : List (Value × Node) :=
  match entries with
  | [] => [(key, n)]
  | (k, m) :: rest => if k == key then (k, n) :: rest else (k, m) :: put rest key n

def field? (n : Node) (key : String) : Option Node :=
  match n with
  | .map _ entries => find? entries (.str key)
  | _ => none

end Node

end Orchestration
