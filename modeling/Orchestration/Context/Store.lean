import Orchestration.Value.Merge
import Orchestration.Value.Node

/-!
The contexts of a workflow.

Every transition that publishes something adds a context. A task reads several of them, merged from
left to right. The merged context is new, but the mappings inside it are those of the contexts it
was merged from: where two contexts have a mapping under one name, the entries of the right one are
written into the left one, wherever that is held.
-/

namespace Orchestration

namespace Node

mutual

def write (mark : Nat) (key : Value) (new : Node) : Node → Node
  | .atom v => .atom v
  | .list items => .list (writeItems mark key new items)
  | .tuple items => .tuple (writeItems mark key new items)
  | .map m entries =>
    let entries := writeEntries mark key new entries
    if m == mark then .map m (put entries key new) else .map m entries

def writeItems (mark : Nat) (key : Value) (new : Node) : List Node → List Node
  | [] => []
  | n :: rest => write mark key new n :: writeItems mark key new rest

def writeEntries (mark : Nat) (key : Value) (new : Node) : List (Value × Node) → List (Value × Node)
  | [] => []
  | (k, n) :: rest => (k, write mark key new n) :: writeEntries mark key new rest

end

mutual

def entriesAt? (mark : Nat) : Node → Option (List (Value × Node))
  | .atom _ => none
  | .list items | .tuple items => entriesInItems? mark items
  | .map m entries => if m == mark then some entries else entriesInEntries? mark entries

def entriesInItems? (mark : Nat) : List Node → Option (List (Value × Node))
  | [] => none
  | n :: rest =>
    match entriesAt? mark n with
    | some found => some found
    | none => entriesInItems? mark rest

def entriesInEntries? (mark : Nat) : List (Value × Node) → Option (List (Value × Node))
  | [] => none
  | (_, n) :: rest =>
    match entriesAt? mark n with
    | some found => some found
    | none => entriesInEntries? mark rest

end

def mark? : Node → Option Nat
  | .map mark _ => some mark
  | _ => none

end Node

/-- A context that is being merged, and all that holds mappings it may share. -/
structure Blend where
  entries : List (Value × Node)
  held : List Node

namespace Blend

def write (b : Blend) (mark : Nat) (key : Value) (new : Node) : Blend :=
  ⟨Node.writeEntries mark key new b.entries, b.held.map (Node.write mark key new)⟩

def entriesAt (b : Blend) (mark : Nat) : List (Value × Node) :=
  ((Node.entriesInEntries? mark b.entries).or (Node.entriesInItems? mark b.held)).getD []

mutual

def enrich (b : Blend) (mark : Nat) : Node → Blend
  | .map _ entries => enrichAll b mark entries
  | _ => b

def enrichAll (b : Blend) (mark : Nat) : List (Value × Node) → Blend
  | [] => b
  | (key, right) :: rest =>
    let b := match Node.find? (b.entriesAt mark) key with
      | some (.map m _) =>
        if !right.isMap then b.write mark key right
        else if right.mark? == some m then b
        else enrich b m right
      | _ => b.write mark key right
    enrichAll b mark rest

end

/-- Merges entries into the context. -/
def absorb (b : Blend) : List (Value × Node) → Blend
  | [] => b
  | (key, right) :: rest =>
    let b := match Node.find? b.entries key with
      | some (.map m _) =>
        if !right.isMap then { b with entries := Node.put b.entries key right }
        else if right.mark? == some m then b
        else b.enrich m right
      | _ => { b with entries := Node.put b.entries key right }
    b.absorb rest

def absorbNode (b : Blend) (right : Node) : Except Error Blend :=
  match right with
  | .map _ entries => .ok (b.absorb entries)
  | .atom .null => .ok b
  | other => .error (Value.noAttribute other.toValue "items")

end Blend

structure Contexts where
  items : List Node
  /-- The next mark for a mapping that nothing else holds. -/
  nextMark : Nat

namespace Contexts

def empty : Contexts := ⟨[], 1⟩

def ofValues (values : List Value) : Contexts :=
  let (items, nextMark) := Node.stampItems 1 (Node.ofItems values)
  ⟨items, nextMark⟩

def toValues (c : Contexts) : List Value := Node.toValues c.items

def push (c : Contexts) (context : Node) : Contexts :=
  ⟨c.items ++ [context], max c.nextMark context.limit⟩

/-- Adds a context with marks that nothing else has. -/
def publish (c : Contexts) (entries : List (Value × Node)) : Contexts :=
  let free := c.nextMark + 1
  ⟨c.items ++ [.map c.nextMark (Node.shiftEntries free entries)], free + Node.limitOfEntries entries⟩

def outOfRange : Error := .broken .index "list index out of range"

def get (c : Contexts) (index : Nat) : Except Error Node :=
  match c.items[index]? with
  | some context => .ok context
  | none => .error outOfRange

/-- Merges the contexts with some indices; `own` counts the contexts among all that is held. -/
def gatherInto (own : Nat) (b : Blend) : List Nat → Blend × Except Error Unit
  | [] => (b, .ok ())
  | index :: rest =>
    if index < own then
      match b.held[index]? with
      | some context =>
        match b.absorbNode context with
        | .ok b => gatherInto own b rest
        | .error e => (b, .error e)
      | none => (b, .error outOfRange)
    else (b, .error outOfRange)

/-- The context that is merged from those with some indices, and the contexts after that. -/
def gather (c : Contexts) (indices : List Nat) : Contexts × Except Error (List (Value × Node)) :=
  let (b, done) := gatherInto c.items.length ⟨[], c.items⟩ indices
  ({ c with items := b.held }, done.map fun _ => b.entries)

/-- Merges more contexts into one that was gathered before. The two share what they hold. The one
that was gathered before is held under a mark of its own. -/
def gatherMore (c : Contexts) (entries : List (Value × Node)) (indices : List Nat) :
    Contexts × Except Error (List (Value × Node)) :=
  let own := c.items.length
  let (b, done) := gatherInto own ⟨[], c.items ++ [.map c.nextMark entries]⟩ indices
  let contexts := b.held.take own
  let left := ((b.held[own]?).bind fun n => Node.entriesAt? c.nextMark n).getD entries
  match done with
  | .error e => (⟨contexts, c.nextMark + 1⟩, .error e)
  | .ok () =>
    let merged := (Blend.mk left contexts).absorb b.entries
    (⟨merged.held, c.nextMark + 1⟩, .ok merged.entries)

end Contexts

end Orchestration
