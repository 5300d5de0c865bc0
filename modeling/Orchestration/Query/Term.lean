import Orchestration.Value.Order
import Orchestration.Value.Arithmetic

/-!
Terms: what queries compute with.

A query works on data that nobody can change, so that lists come in as tuples and mappings as fixed
ones. A `view` shows the keys, the values or the entries of a mapping. An `iterator` gives its items
once and computes them on demand; a term only holds the place of its state. A `collection` is
computed on demand as well, but can be walked through again.
-/

namespace Orchestration.Query

/-- The place of something that is computed on demand. -/
abbrev Ref := Nat

inductive Part where
  | keys
  | values
  | items
  deriving DecidableEq, Repr

inductive Term where
  | atom (v : Value)
  | tuple (items : List Term)
  | list (items : List Term)
  | set (items : List Term)
  | map (isFixed : Bool) (entries : List (Value × Term))
  | view (part : Part) (isFixed : Bool) (entries : List (Value × Term))
  | iterator (ref : Ref)
  | collection (ref : Ref)
  | scope (bindings : List (String × Term))
  deriving Inhabited

namespace Term

def null : Term := .atom .null

def bool (b : Bool) : Term := .atom (.bool b)

def str (s : String) : Term := .atom (.str s)

def int (n : Int) : Term := .atom (.int n)

mutual

def ofValue : Value → Term
  | .list items | .tuple items => .tuple (ofItems items)
  | .set items => .set (ofItems items)
  | .map entries => .map true (ofEntries entries)
  | v => .atom v

def ofItems : List Value → List Term
  | [] => []
  | v :: rest => ofValue v :: ofItems rest

def ofEntries : List (Value × Value) → List (Value × Term)
  | [] => []
  | (k, v) :: rest => (k, ofValue v) :: ofEntries rest

end

mutual

/-- A value that was made inside a query: lists stay lists and mappings can be changed. -/
def fresh : Value → Term
  | .list items => .list (freshItems items)
  | .tuple items => .tuple (freshItems items)
  | .set items => .set (freshItems items)
  | .map entries => .map false (freshEntries entries)
  | v => .atom v

def freshItems : List Value → List Term
  | [] => []
  | v :: rest => fresh v :: freshItems rest

def freshEntries : List (Value × Value) → List (Value × Term)
  | [] => []
  | (k, v) :: rest => (k, fresh v) :: freshEntries rest

end

def pair (entry : Value × Term) : Term := .tuple [ofValue entry.1, entry.2]

def shownBy (part : Part) (entries : List (Value × Term)) : List Term :=
  match part with
  | .keys => entries.map fun (k, _) => ofValue k
  | .values => entries.map (·.2)
  | .items => entries.map pair

/-- What stands for something that is the same as itself only. -/
def identity (kind : String) (ref : Ref) : Value := .named (kind ++ " " ++ toString ref)

mutual

/-- The value of a term as it stands inside the query. -/
def plain : Term → Value
  | .atom v => v
  | .tuple items => .tuple (plainItems items)
  | .list items => .list (plainItems items)
  | .set items => .set (plainItems items)
  | .map _ entries => .map (plainEntries entries)
  | .view .keys _ entries => .set (entries.map (·.1))
  | .view .items _ entries => .set ((plainEntries entries).map fun (k, v) => .tuple [k, v])
  | .view .values _ _ => .object "view"
  | .iterator ref => identity "iterator" ref
  | .collection ref => identity "collection" ref
  | .scope _ => .object "Context"

def plainItems : List Term → List Value
  | [] => []
  | t :: rest => plain t :: plainItems rest

def plainEntries : List (Value × Term) → List (Value × Value)
  | [] => []
  | (k, t) :: rest => (k, plain t) :: plainEntries rest

end

def viewName (part : Part) (isFixed : Bool) : String :=
  match part, isFixed with
  | .keys, true => "KeysView"
  | .values, true => "ValuesView"
  | .items, true => "ItemsView"
  | .keys, false => "dict_keys"
  | .values, false => "dict_values"
  | .items, false => "dict_items"

def typeName : Term → String
  | .atom v => v.typeName
  | .tuple _ => "tuple"
  | .list _ => "list"
  | .set _ => "frozenset"
  | .map isFixed _ => if isFixed then "FrozenDict" else "dict"
  | .view part isFixed _ => viewName part isFixed
  | .iterator _ => "generator"
  | .collection _ => "OrderingIterable"
  | .scope _ => "Context"

mutual

def shown : Term → String
  | .atom v => v.shown
  | .tuple [t] => "(" ++ shown t ++ ",)"
  | .tuple items => "(" ++ ", ".intercalate (shownItems items) ++ ")"
  | .list items => "[" ++ ", ".intercalate (shownItems items) ++ "]"
  | .set [] => "frozenset()"
  | .set items => "frozenset(\x7b" ++ ", ".intercalate (shownItems items) ++ "\x7d)"
  | .map _ entries => "\x7b" ++ ", ".intercalate (shownEntries entries) ++ "\x7d"
  | .view part true entries =>
    viewName part true ++ "(\x7b" ++ ", ".intercalate (shownEntries entries) ++ "\x7d)"
  | .view .keys false entries =>
    "dict_keys([" ++ ", ".intercalate (entries.map fun (k, _) => k.shown) ++ "])"
  | .view .values false entries => "dict_values([" ++ ", ".intercalate (shownValues entries) ++ "])"
  | .view .items false entries => "dict_items([" ++ ", ".intercalate (shownPairs entries) ++ "])"
  | t => "<" ++ t.typeName ++ " object>"

def shownItems : List Term → List String
  | [] => []
  | t :: rest => shown t :: shownItems rest

def shownEntries : List (Value × Term) → List String
  | [] => []
  | (k, t) :: rest => (k.shown ++ ": " ++ shown t) :: shownEntries rest

def shownValues : List (Value × Term) → List String
  | [] => []
  | (_, t) :: rest => shown t :: shownValues rest

def shownPairs : List (Value × Term) → List String
  | [] => []
  | (k, t) :: rest => ("(" ++ k.shown ++ ", " ++ shown t ++ ")") :: shownPairs rest

end

def text : Term → String
  | .atom v => v.text
  | t => t.shown

/-- The text of a term where null and truth values are written in small letters. -/
def smallText : Term → String
  | .atom .null => "null"
  | .atom (.bool b) => if b then "true" else "false"
  | t => t.text

def truthy : Term → Bool
  | .atom v => v.truthy
  | .tuple items | .list items | .set items => !items.isEmpty
  | .map _ entries | .view _ _ entries => !entries.isEmpty
  | .iterator _ | .collection _ | .scope _ => true

def same (s t : Term) : Bool := s.plain == t.plain

def isNull : Term → Bool
  | .atom .null => true
  | _ => false

def find? (entries : List (Value × Term)) (key : Value) : Option Term :=
  (entries.find? fun (k, _) => k == key).map (·.2)

def put (entries : List (Value × Term)) (key : Value) (t : Term) : List (Value × Term) :=
  match entries with
  | [] => [(key, t)]
  | (k, u) :: rest => if k == key then (k, t) :: rest else (k, u) :: put rest key t

def erase (entries : List (Value × Term)) (key : Value) : List (Value × Term) :=
  entries.filter fun (k, _) => !(k == key)

def missingKey (key : Value) : Error := .broken .key key.shown

def unhashable (type : String) : Error := .broken .type ("unhashable type: '" ++ type ++ "'")

def notIterable (t : Term) : Error :=
  .broken .type ("'" ++ t.typeName ++ "' object is not iterable")

mutual

/-- The type for which a term may not be a key; fixed data may be one as a whole. -/
def keyFault? : Term → Option String
  | .list _ => some "list"
  | .map false _ => some "dict"
  | .view part isFixed _ => if part == .values then none else some (viewName part isFixed)
  | .tuple items => itemsKeyFault? items
  | .map true entries => entriesKeyFault? entries
  | _ => none

def itemsKeyFault? : List Term → Option String
  | [] => none
  | t :: rest => (keyFault? t).orElse fun _ => itemsKeyFault? rest

def entriesKeyFault? : List (Value × Term) → Option String
  | [] => none
  | (_, t) :: rest => (keyFault? t).orElse fun _ => entriesKeyFault? rest

end

def key (t : Term) : Except Error Value :=
  match keyFault? t with
  | some type => .error (unhashable type)
  | none => .ok t.plain

/-- The whole number a term stands for; truth values count. -/
def whole? : Term → Option Int
  | .atom v => v.asInt?
  | _ => none

/-- Whole numbers come in their order; other members come as they were put in. -/
def membersInOrder (items : List Term) : List Term :=
  let numbers := items.filterMap fun
    | .atom (.int n) => some n
    | _ => none
  if numbers.length == items.length then (numbers.mergeSort (· ≤ ·)).map int else items

def insert (items : List Term) (t : Term) : Except Error (List Term) := do
  let v ← t.key
  .ok (if items.any fun u => u.plain == v then items else items ++ [t])

def setOf (items : List Term) : Except Error Term := do
  .ok (.set (membersInOrder (← items.foldlM insert [])))

end Term

end Orchestration.Query
