import Orchestration.Template.Tree
import Orchestration.Value.Node
import Orchestration.Value.Order

/-!
Items: what templates compute with.

A list or a mapping can be changed by whoever holds it, so an item only refers to it; where it is
kept says `Store`. A name that nothing stands for is an item too; it only fails when something is
done with it.
-/

namespace Orchestration.Template

/-- The place of something in a store. -/
abbrev Ref := Nat

inductive Part where
  | keys
  | values
  | items
  deriving DecidableEq

inductive Item where
  | atom (v : Value)
  | tuple (items : List Item)
  /-- Items that have the same key, together with it. -/
  | group (key members : Item)
  | list (ref : Ref)
  | map (ref : Ref)
  | view (part : Part) (ref : Ref)
  | range (start stop step : Int)
  /-- What gives items one by one, and each only once. -/
  | cursor (ref : Ref)
  | object (ref : Ref)
  | undefined (fault : Fault) (text : String)
  | function (name : String)
  | method (receiver : Item) (name : String)
  deriving Inhabited

namespace Item

def null : Item := .atom .null

def bool (b : Bool) : Item := .atom (.bool b)

def int (n : Int) : Item := .atom (.int n)

def str (s : String) : Item := .atom (.str s)

def texts (parts : List String) : List Item := parts.map str

mutual

def ofKey : Value → Item
  | .tuple items => .tuple (ofKeys items)
  | v => .atom v

def ofKeys : List Value → List Item
  | [] => []
  | v :: rest => ofKey v :: ofKeys rest

end

/-- How many numbers there are from a start up to a stop. -/
def count (start stop step : Int) : Nat :=
  (if step > 0 then (stop - start + step - 1) / step else (start - stop - step - 1) / (-step)).toNat

def numbers (start stop step : Int) : List Int :=
  (List.range (count start stop step)).map fun (i : Nat) => start + (i : Int) * step

/-- Turns down a name that nothing stands for. -/
def require : Item → Except Error Item
  | .undefined fault text => .error (.broken fault text)
  | item => .ok item

def isUndefined : Item → Bool
  | .undefined .. => true
  | _ => false

def isNull : Item → Bool
  | .atom .null => true
  | _ => false

def text? : Item → Option String
  | .atom (.str s) => some s
  | _ => none

def int? : Item → Option Int
  | .atom v => v.asInt?
  | _ => none

end Item

/-- The names that a template has given itself, whether what it writes is escaped, and whether only
constants may be used. -/
structure Scope where
  names : List (String × Item)
  escapes : Bool
  isConstant : Bool

structure Given where
  positional : List Item
  named : List (String × Item)

/-- What a stream makes of each item: the part at the end of a path, or what a filter gives. -/
inductive Rule where
  | path (parts : List Item) (other : Item)
  | filter (name : Item) (given : Given)

/-- Which items a stream keeps: those of which a part passes a test, or those of which it does
not. -/
structure Choice where
  path : List Item
  test : Option (Item × Given)
  wanted : Bool

inductive Source where
  | map (given : Given)
  | choose (wanted byAttribute : Bool) (given : Given)
  | distinct (caseSensitive path : Item)
  | batches (size fill : Item)
  | slices (number fill : Item)
  | pairs

/-- Where the next item comes from. -/
inductive Cursor where
  | items (rest : List Item)
  | inList (ref : Ref) (place : Nat)
  /-- Goes through a list from its end; `left` items are still to come. -/
  | fromEnd (ref : Ref) (left : Nat)
  /-- Goes through a mapping, which must keep its size. -/
  | inMap (part : Part) (ref : Ref) (place size : Nat)
  | mapped (source : Ref) (rule : Rule)
  | chosen (source : Ref) (choice : Choice)
  | distinct (source : Ref) (caseSensitive : Bool) (path : List Item) (met : List Value)
  | batched (source : Ref) (size fill : Item) (held : List Item)
  /-- Items of which a condition holds once they have been given names. -/
  | restricted (source : Ref) (target : Target) (condition : Expr) (scope : Scope)
  | waiting (source : Source) (item : Item)

structure Loop where
  source : Item
  cursor : Ref
  index : Int
  length : Option Nat
  ahead : Option Item
  previous : Option Item
  current : Option Item
  remembered : Option (List Item)
  depth : Nat
  target : Target
  condition : Expr
  body : List Statement
  otherwise : List Statement
  isRecursive : Bool
  scope : Scope

/-- A part of a template that can be called. -/
structure Routine where
  name : String
  parameters : List (String × Option Expr)
  body : List Statement
  scope : Scope

inductive Cell where
  | list (items : List Item)
  /-- A mapping that came with a mark keeps it until it is changed. -/
  | map (mark : Nat) (entries : List (Value × Item))
  | cursor (type : String) (state : Cursor)
  | loop (l : Loop)
  | names (entries : List (Value × Item))
  | cycler (items : List Item) (place : Nat)
  | joiner (separator : Item) (isUsed : Bool)
  | routine (r : Routine)
  | bytes (content : List UInt8)

end Orchestration.Template
