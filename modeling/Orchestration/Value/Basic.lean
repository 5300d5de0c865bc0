import Orchestration.Calendar.Basic

/-!
Values: what definitions, contexts and results are made of.

A mapping keeps its entries in the order of insertion, and its keys are values themselves. Whole
numbers and floating numbers are different values, even where they compare as equal. `named`
stands for the kind of a specification inside a schema, and `object` for something that has no
value form, of which only the name of its type is known.
-/

namespace Orchestration

inductive Value where
  | null
  | bool (b : Bool)
  | int (n : Int)
  | float (x : Float)
  | str (s : String)
  | date (d : Calendar.Date)
  | moment (m : Calendar.Moment)
  | list (items : List Value)
  | tuple (items : List Value)
  | set (items : List Value)
  | map (entries : List (Value × Value))
  | named (kind : String)
  | object (type : String)
  deriving Inhabited, Repr

abbrev Entries := List (Value × Value)

namespace Value

instance : Coe String Value := ⟨.str⟩

def ofNat (n : Nat) : Value := .int n

def fields (entries : List (String × Value)) : Value := .map (entries.map fun (k, v) => (.str k, v))

def empty : Value := .map []

/-- A value counts as false when it is nothing: zero, no text, no items, no entries. -/
def truthy : Value → Bool
  | .null => false
  | .bool b => b
  | .int n => n != 0
  | .float x => !(x == 0.0)
  | .str s => !s.isEmpty
  | .list items | .tuple items | .set items => !items.isEmpty
  | .map entries => !entries.isEmpty
  | .date _ | .moment _ | .named _ | .object _ => true

def isMap : Value → Bool
  | .map _ => true
  | _ => false

def isList : Value → Bool
  | .list _ => true
  | _ => false

def isStr : Value → Bool
  | .str _ => true
  | _ => false

def isNull : Value → Bool
  | .null => true
  | _ => false

def asInt? : Value → Option Int
  | .int n => some n
  | .bool b => some (if b then 1 else 0)
  | _ => none

def asStr? : Value → Option String
  | .str s => some s
  | _ => none

def asList? : Value → Option (List Value)
  | .list items => some items
  | _ => none

def asMap? : Value → Option Entries
  | .map entries => some entries
  | _ => none

def typeName : Value → String
  | .null => "NoneType"
  | .bool _ => "bool"
  | .int _ => "int"
  | .float _ => "float"
  | .str _ => "str"
  | .date _ => "datetime.date"
  | .moment _ => "datetime.datetime"
  | .list _ => "list"
  | .tuple _ => "tuple"
  | .set _ => "set"
  | .map _ => "dict"
  | .named _ => "type"
  | .object type => type

end Value

end Orchestration
