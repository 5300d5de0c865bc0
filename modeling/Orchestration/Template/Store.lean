import Std.Data.HashMap
import Orchestration.Expression.Functions
import Orchestration.Template.Item

/-!
Where lists, mappings and everything else that can change is kept.

What an item looks like from outside depends on the store: its text, whether it counts as true, how
many parts it has, and whether it is the same as another one. A list may hold itself, so that
looking into items has a bound.
-/

namespace Orchestration.Template

/-- Cells, the places of the mappings that came with a mark, and the names that surround a
template. -/
structure Store where
  cells : Array Cell
  marks : Std.HashMap Nat Ref
  context : Item

namespace Store

def empty : Store := ⟨#[], ∅, .null⟩

def listAt (store : Store) (ref : Ref) : List Item :=
  match store.cells[ref]? with
  | some (.list items) => items
  | _ => []

def entriesAt (store : Store) (ref : Ref) : List (Value × Item) :=
  match store.cells[ref]? with
  | some (.map _ entries) => entries
  | _ => []

def shownBy (part : Part) (entry : Value × Item) : Item :=
  match part with
  | .keys => .ofKey entry.1
  | .values => entry.2
  | .items => .tuple [.ofKey entry.1, entry.2]

def viewed (store : Store) (part : Part) (ref : Ref) : List Item :=
  (store.entriesAt ref).map (shownBy part)

def functionType (name : String) : String :=
  if name == "json" || name == "zip" || name == "range" || name == "lipsum" then "function"
  else if ["dict", "cycler", "joiner", "namespace"].contains name then "type"
  else "functools.partial"

def cellType : Cell → String
  | .list _ => "list"
  | .map _ _ => "dict"
  | .cursor type _ => type
  | .loop _ => "LoopContext"
  | .names _ => "Namespace"
  | .cycler _ _ => "Cycler"
  | .joiner _ _ => "Joiner"
  | .routine _ => "Macro"
  | .bytes _ => "bytes"

def viewType : Part → String
  | .keys => "dict_keys"
  | .values => "dict_values"
  | .items => "dict_items"

def typeName (store : Store) : Item → String
  | .atom v => v.typeName
  | .tuple _ => "tuple"
  | .group _ _ => "_GroupTuple"
  | .list _ => "list"
  | .map _ => "dict"
  | .view part _ => viewType part
  | .range .. => "range"
  | .cursor ref | .object ref => ((store.cells[ref]?).map cellType).getD "object"
  | .undefined .. => "StrictUndefined"
  | .function name => functionType name
  | .method (.object _) _ => "method"
  | .method _ _ => "builtin_function_or_method"

def shortTypeName (store : Store) (item : Item) : String :=
  ((Text.splitText "." (store.typeName item)).getLast?).getD ""

def title (store : Store) (item : Item) : String :=
  let type := store.typeName item
  match item with
  | .atom .null => "None"
  | .group _ _ => "jinja2.filters." ++ type ++ " object"
  | .undefined .. => "jinja2.runtime." ++ type ++ " object"
  | .object ref =>
    match store.cells[ref]? with
    | some (.loop _) | some (.routine _) => "jinja2.runtime." ++ type ++ " object"
    | some (.bytes _) => type ++ " object"
    | _ => "jinja2.utils." ++ type ++ " object"
  | _ => type ++ " object"

def maxDepth : Nat := 1000

/-- The item as data. What has no value form is known by the name of its type only. -/
def nodeOf (store : Store) : Nat → Item → Node
  | 0, _ => Node.null
  | depth + 1, item =>
    match item with
    | .atom v => .atom v
    | .tuple items => .tuple (items.map (nodeOf store depth))
    | .group key members => .tuple [nodeOf store depth key, nodeOf store depth members]
    | .list ref => .list ((store.listAt ref).map (nodeOf store depth))
    | .map ref =>
      match store.cells[ref]? with
      | some (.map mark entries) => .map mark (entries.map fun (k, v) => (k, nodeOf store depth v))
      | _ => Node.null
    | _ => .atom (.object (store.shortTypeName item))

def toNode (store : Store) (item : Item) : Node := store.nodeOf maxDepth item

def plain (store : Store) (item : Item) : Value :=
  match item with
  | .atom v => v
  | .list _ | .map _ | .tuple _ | .group _ _ => (store.toNode item).toValue
  | _ => .object (store.typeName item)

/-- How many parts an item has; `none` if it has no parts. -/
def size? (store : Store) : Item → Option Nat
  | .atom (.str s) => some s.length
  | .atom (.set items) => some items.length
  | .tuple items => some items.length
  | .group _ _ => some 2
  | .list ref => some (store.listAt ref).length
  | .map ref | .view _ ref => some (store.entriesAt ref).length
  | .range start stop step => some (Item.count start stop step)
  | .object ref =>
    match store.cells[ref]? with
    | some (.loop l) => l.length
    | some (.bytes content) => some content.length
    | _ => none
  | _ => none

/-- A byte in a text of bytes with a mark at both ends. -/
def byteShown (mark : Char) (b : UInt8) : String :=
  let c := Char.ofNat b.toNat
  let digits := Nat.toDigits 16 b.toNat
  if c == mark || c == '\\' then String.ofList ['\\', c]
  else if c == '\t' then "\\t"
  else if c == '\n' then "\\n"
  else if c == '\r' then "\\r"
  else if 32 ≤ b.toNat && b.toNat < 127 then String.singleton c
  else "\\x" ++ String.ofList (if digits.length < 2 then '0' :: digits else digits)

def bytesShown (content : List UInt8) : String :=
  let has (c : Char) : Bool := content.any fun b => b.toNat == c.toNat
  let mark := if has '\'' && !has '"' then '"' else '\''
  "b" ++ String.singleton mark ++ String.join (content.map (byteShown mark)) ++ String.singleton mark

/-- The form in which an item stands inside another one. A list that holds itself is cut short. -/
def shownIn (store : Store) : Nat → List Ref → Item → String
  | 0, _, _ => "..."
  | depth + 1, outer, item =>
    let all (outer : List Ref) (items : List Item) : String :=
      ", ".intercalate (items.map (shownIn store depth outer))
    let mapping (outer : List Ref) (entries : List (Value × Item)) : String :=
      "\x7b" ++ ", ".intercalate (entries.map fun (k, v) =>
        k.shown ++ ": " ++ shownIn store depth outer v) ++ "\x7d"
    match item with
    | .atom v => v.shown
    | .tuple [single] => "(" ++ shownIn store depth outer single ++ ",)"
    | .tuple items => "(" ++ all outer items ++ ")"
    | .group key members => "(" ++ all outer [key, members] ++ ")"
    | .list ref =>
      if outer.contains ref then "[...]" else "[" ++ all (ref :: outer) (store.listAt ref) ++ "]"
    | .map ref =>
      if outer.contains ref then "\x7b...\x7d" else mapping (ref :: outer) (store.entriesAt ref)
    | .view part ref => viewType part ++ "([" ++ all outer (store.viewed part ref) ++ "])"
    | .range start stop step =>
      "range(" ++ toString start ++ ", " ++ toString stop ++
        (if step == 1 then "" else ", " ++ toString step) ++ ")"
    | .undefined .. => "Undefined"
    | .object ref =>
      match store.cells[ref]? with
      | some (.names entries) => "<Namespace " ++ mapping outer entries ++ ">"
      | some (.routine r) => "<Macro " ++ Text.quoted r.name ++ ">"
      | some (.bytes content) => bytesShown content
      | some (.loop l) =>
        let length := (l.length.or (size? store l.source)).getD 0
        "<LoopContext " ++ toString (l.index + 1) ++ "/" ++ toString length ++ ">"
      | _ => "<" ++ store.typeName item ++ " object>"
    | _ => "<" ++ store.typeName item ++ " object>"

def shown (store : Store) (item : Item) : String := store.shownIn maxDepth [] item

def text (store : Store) : Item → Except Error String
  | .atom v => .ok v.text
  | .undefined fault text => .error (.broken fault text)
  | item => .ok (store.shown item)

def truthy (store : Store) : Item → Except Error Bool
  | .atom v => .ok v.truthy
  | .undefined fault text => .error (.broken fault text)
  | item => .ok (store.size? item != some 0)

def notIterable (store : Store) (item : Item) : Error :=
  .broken .type ("'" ++ store.typeName item ++ "' object is not iterable")

/-- The parts of an item that are there before they are taken; `none` if it has no such parts. -/
def parts? (store : Store) : Item → Option (List Item)
  | .atom (.str s) => some (s.toList.map fun c => .str (String.singleton c))
  | .atom (.set items) => some (Item.ofKeys items)
  | .tuple items => some items
  | .group key members => some [key, members]
  | .list ref => some (store.listAt ref)
  | .map ref => some (store.viewed .keys ref)
  | .view part ref => some (store.viewed part ref)
  | .range start stop step => some ((Item.numbers start stop step).map Item.int)
  | .object ref =>
    match store.cells[ref]? with
    | some (.bytes content) => some (content.map fun b => Item.int b.toNat)
    | _ => none
  | _ => none

def find? (entries : List (Value × Item)) (key : Value) : Option Item :=
  (entries.find? fun (k, _) => k == key).map (·.2)

def withEntry (entries : List (Value × Item)) (key : Value) (item : Item) : List (Value × Item) :=
  match entries with
  | [] => [(key, item)]
  | (k, old) :: rest => if k == key then (k, item) :: rest else (k, old) :: withEntry rest key item

mutual

/-- The first part of a value that keeps it from being a key. -/
def noKey? : Value → Option Value
  | .tuple items => noKeyIn? items
  | v => if v.hashable then none else some v

def noKeyIn? : List Value → Option Value
  | [] => none
  | v :: rest => (noKey? v).or (noKeyIn? rest)

end

def key (store : Store) (item : Item) : Except Error Value := do
  let v := store.plain (← item.require)
  match noKey? v with
  | some inner => .error (.broken .type ("unhashable type: '" ++ inner.typeName ++ "'"))
  | none => .ok v

/-- Goes through two lists at once, up to the first pair that is not the same. -/
def allSame (same : Item → Item → Except Error Bool) : List Item → List Item → Except Error Bool
  | [], [] => .ok true
  | a :: as, b :: bs => do if ← same a b then allSame same as bs else .ok false
  | _, _ => .ok false

def sameAt (store : Store) : Nat → Item → Item → Except Error Bool
  | 0, _, _ => .error (.broken .recursion "maximum recursion depth exceeded in comparison")
  | depth + 1, a, b =>
    let each := allSame (sameAt store depth)
    match a, b with
    | .undefined fault text, _ | _, .undefined fault text => .error (.broken fault text)
    | .atom v, .atom w => .ok (v == w)
    | .list r, .list s => if r == s then .ok true else each (store.listAt r) (store.listAt s)
    | .map r, .map s =>
      let left := store.entriesAt r
      let right := store.entriesAt s
      if r == s then .ok true
      else if left.length != right.length then .ok false
      else left.foldlM (fun holds (k, v) =>
        match find? right k with
        | some w => if holds then sameAt store depth v w else .ok false
        | none => .ok false) true
    | .view .values r, .view .values s => .ok (r == s)
    | .view .values _, _ | _, .view .values _ => .ok false
    | .view _ _, _ | _, .view _ _ =>
      match a, b with
      | .atom (.set _), _ | _, .atom (.set _) | .view _ _, .view _ _ =>
        let left := (store.parts? a).getD []
        let right := (store.parts? b).getD []
        if left.length != right.length then .ok false
        else left.foldlM (fun holds x => do
          if holds then right.anyM fun y => sameAt store depth x y else .ok false) true
      | _, _ => .ok false
    | .cursor r, .cursor s => .ok (r == s)
    | .object r, .object s =>
      match store.cells[r]?, store.cells[s]? with
      | some (.bytes a), some (.bytes b) => .ok (a == b)
      | _, _ => .ok (r == s)
    | .function f, .function g => .ok (f == g)
    | .range .., .range .. => each ((store.parts? a).getD []) ((store.parts? b).getD [])
    | .tuple _, .tuple _ | .tuple _, .group _ _ | .group _ _, .tuple _ | .group _ _, .group _ _ =>
      each ((store.parts? a).getD []) ((store.parts? b).getD [])
    | _, _ => .ok false

def same (store : Store) (a b : Item) : Except Error Bool := store.sameAt maxDepth a b

def compares (store : Store) (comparison : Comparison) (a b : Item) : Except Error Bool := do
  let a ← a.require
  let b ← b.require
  Value.compares comparison (store.plain a) (store.plain b)

def view (store : Store) : View Item where
  plain := store.plain
  entries?
    | .map ref => some (store.entriesAt ref)
    | _ => none

end Store

/-- A computation that may change the store. -/
abbrev Work := StateT Store (Except Error)

/-- What the parts of a template rely on: it takes items from cursors, and calls items. -/
structure Engine where
  next : Ref → Work (Option Item)
  call : Item → Given → Work Item

abbrev Eval := ReaderT Engine Work

def tooDeep : Error := .broken .recursion "maximum recursion depth exceeded"

def maxSteps : Nat := 10000000

namespace Work

def make (cell : Cell) : Work Ref :=
  modifyGet fun store => (store.cells.size, { store with cells := store.cells.push cell })

mutual

def ofValue : Value → Work Item
  | .list items => do return .list (← make (.list (← ofValues items)))
  | .tuple items => do return .tuple (← ofValues items)
  | .map entries => do return .map (← make (.map 0 (← ofEntries entries)))
  | v => return .atom v

def ofValues : List Value → Work (List Item)
  | [] => return []
  | v :: rest => do
    let item ← ofValue v
    return item :: (← ofValues rest)

def ofEntries : List (Value × Value) → Work (List (Value × Item))
  | [] => return []
  | (k, v) :: rest => do
    let item ← ofValue v
    return (k, item) :: (← ofEntries rest)

end

mutual

/-- A node; mappings with the same mark become one. -/
def ofNode : Node → Work Item
  | .atom v => ofValue v
  | .list items => do return .list (← make (.list (← ofNodes items)))
  | .tuple items => do return .tuple (← ofNodes items)
  | .map mark entries => do
    match (← get).marks[mark]? with
    | some ref => return .map ref
    | none =>
      let ref ← make (.map mark (← ofNodeEntries entries))
      if mark != 0 then modify fun store => { store with marks := store.marks.insert mark ref }
      return .map ref

def ofNodes : List Node → Work (List Item)
  | [] => return []
  | n :: rest => do
    let item ← ofNode n
    return item :: (← ofNodes rest)

def ofNodeEntries : List (Value × Node) → Work (List (Value × Item))
  | [] => return []
  | (k, n) :: rest => do
    let item ← ofNode n
    return (k, item) :: (← ofNodeEntries rest)

end

end Work

namespace Eval

def make (cell : Cell) : Eval Ref := Work.make cell

def put (ref : Ref) (cell : Cell) : Eval Unit :=
  modify fun store => { store with cells := store.cells.setIfInBounds ref cell }

def ofValue (v : Value) : Eval Item := Work.ofValue v

def ask {α : Type} (f : Store → Except Error α) : Eval α := do
  match f (← get) with
  | .ok a => return a
  | .error e => throw e

def settle {α : Type} (answer : Except Error α) : Eval α :=
  match answer with
  | .ok a => return a
  | .error e => throw e

def list (items : List Item) : Eval Item := do return .list (← make (.list items))

def mapping (entries : List (Value × Item)) : Eval Item := do return .map (← make (.map 0 entries))

def texts (parts : List String) : Eval Item := list (Item.texts parts)

def cursor (type : String) (state : Cursor) : Eval Item := do
  return .cursor (← make (.cursor type state))

def setList (ref : Ref) (items : List Item) : Eval Unit := put ref (.list items)

/-- Changes a mapping, which is then no longer the one that it was. -/
def setEntries (ref : Ref) (entries : List (Value × Item)) : Eval Unit := put ref (.map 0 entries)

def typeName (item : Item) : Eval String := do return (← get).typeName item

def plain (item : Item) : Eval Value := do return (← get).plain item

def shown (item : Item) : Eval String := do return (← get).shown item

def text (item : Item) : Eval String := ask (·.text item)

def truthy (item : Item) : Eval Bool := ask (·.truthy item)

def key (item : Item) : Eval Value := ask (·.key item)

def same (a b : Item) : Eval Bool := ask (·.same a b)

def require (item : Item) : Eval Item := settle item.require

def next (ref : Ref) : Eval (Option Item) := do (← read).next ref

def call (item : Item) (given : Given) : Eval Item := do (← read).call item given

def drainOnto (found : Array Item) (ref : Ref) : Nat → Eval (List Item)
  | 0 => throw tooDeep
  | fuel + 1 => do
    match ← next ref with
    | none => return found.toList
    | some item => drainOnto (found.push item) ref fuel

def drain (ref : Ref) : Eval (List Item) := drainOnto #[] ref maxSteps

def iterate (item : Item) : Eval Ref := do
  match item with
  | .cursor ref => return ref
  | .list ref => make (.cursor "list_iterator" (.inList ref 0))
  | .map ref => do
    make (.cursor "dict_keyiterator" (.inMap .keys ref 0 ((← get).entriesAt ref).length))
  | .view part ref => do
    make (.cursor "dict_iterator" (.inMap part ref 0 ((← get).entriesAt ref).length))
  | .undefined fault text => throw (.broken fault text)
  | _ =>
    match (← get).parts? item with
    | some parts => make (.cursor "iterator" (.items parts))
    | none => throw ((← get).notIterable item)

def items (item : Item) : Eval (List Item) := do
  match item with
  | .cursor ref => drain ref
  | .undefined fault text => throw (.broken fault text)
  | _ =>
    match (← get).parts? item with
    | some parts => return parts
    | none => throw ((← get).notIterable item)

def length (item : Item) : Eval Nat := do
  let item ← require item
  match (← get).size? item with
  | some n => return n
  | none => throw (.broken .type ("object of type '" ++ (← typeName item) ++ "' has no len()"))

/-- The item as data; what is computed on demand is computed now. -/
def dataAt : Nat → Item → Eval Node
  | 0, _ => throw tooDeep
  | depth + 1, item => do
    match item with
    | .atom v => return .atom v
    | .tuple items => return .tuple (← items.mapM (dataAt depth))
    | .group key members => return .tuple [← dataAt depth key, ← dataAt depth members]
    | .list ref => return .list (← ((← get).listAt ref).mapM (dataAt depth))
    | .map ref =>
      match (← get).cells[ref]? with
      | some (.map mark entries) =>
        return .map mark (← entries.mapM fun (k, v) => do return (k, ← dataAt depth v))
      | _ => return Node.null
    | .cursor ref =>
      if (← typeName item) == "generator" then return .list (← (← drain ref).mapM (dataAt depth))
      else return (← get).toNode item
    | _ => return (← get).toNode item

def toData (item : Item) : Eval Node := dataAt Store.maxDepth item

def ofFound : Found Item → Eval Item
  | .one item => return item
  | .mapping entries => mapping entries
  | .value v => ofValue v

end Eval

end Orchestration.Template
