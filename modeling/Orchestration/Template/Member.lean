import Orchestration.Template.Store

/-!
Members of items: the part behind a point, and the part in square brackets.

Behind a point a member of the item itself comes before an entry; in square brackets it is the other
way round. A part that is not there is a name that nothing stands for. Members with an underscore
before their names are there, but no template may look at them.
-/

namespace Orchestration.Template

namespace Item

def textMethods : List String :=
  ["capitalize", "casefold", "center", "count", "encode", "endswith", "expandtabs", "find", "format",
   "format_map", "index", "isalnum", "isalpha", "isascii", "isdecimal", "isdigit", "isidentifier",
   "islower", "isnumeric", "isprintable", "isspace", "istitle", "isupper", "join", "ljust", "lower",
   "lstrip", "maketrans", "partition", "removeprefix", "removesuffix", "replace", "rfind", "rindex",
   "rjust", "rpartition", "rsplit", "rstrip", "split", "splitlines", "startswith", "strip", "swapcase",
   "title", "translate", "upper", "zfill"]

def mapMethods : List String :=
  ["clear", "copy", "fromkeys", "get", "items", "keys", "pop", "popitem", "setdefault", "update", "values"]

def listMethods : List String :=
  ["append", "clear", "copy", "count", "extend", "index", "insert", "pop", "remove", "reverse", "sort"]

def tupleMethods : List String := ["count", "index"]

def setMethods : List String :=
  ["add", "clear", "copy", "difference", "difference_update", "discard", "intersection",
   "intersection_update", "isdisjoint", "issubset", "issuperset", "pop", "remove", "symmetric_difference",
   "symmetric_difference_update", "union", "update"]

def wholeMethods : List String :=
  ["as_integer_ratio", "bit_count", "bit_length", "conjugate", "from_bytes", "to_bytes"]

def floatMethods : List String := ["as_integer_ratio", "conjugate", "fromhex", "hex", "is_integer"]

def dateMethods : List String :=
  ["ctime", "isoformat", "isoweekday", "strftime", "toordinal", "weekday"]

def guarded : List String :=
  ["__class__", "__delattr__", "__dir__", "__doc__", "__eq__", "__format__", "__ge__",
   "__getattribute__", "__getstate__", "__gt__", "__hash__", "__init__", "__init_subclass__", "__le__",
   "__lt__", "__ne__", "__new__", "__reduce__", "__reduce_ex__", "__repr__", "__setattr__", "__sizeof__",
   "__str__", "__subclasshook__"]

def guardedOfNumbers : List String :=
  ["__abs__", "__add__", "__bool__", "__ceil__", "__divmod__", "__float__", "__floor__",
   "__floordiv__", "__getnewargs__", "__int__", "__mod__", "__mul__", "__neg__", "__pos__", "__pow__",
   "__radd__", "__rdivmod__", "__rfloordiv__", "__rmod__", "__rmul__", "__round__", "__rpow__",
   "__rsub__", "__rtruediv__", "__sub__", "__truediv__", "__trunc__"]

def guardedOfWholes : List String :=
  ["__and__", "__index__", "__invert__", "__lshift__", "__or__", "__rand__", "__rlshift__", "__ror__",
   "__rrshift__", "__rshift__", "__rxor__", "__xor__"]

def guardedOfSets : List String :=
  ["__and__", "__contains__", "__iter__", "__len__", "__or__", "__rand__", "__ror__", "__rsub__",
   "__rxor__", "__sub__", "__xor__"]

/-- Guarded members that an item has besides those that all have. -/
def guardedOwn : Item → List String
  | .atom (.str _) =>
    ["__add__", "__contains__", "__getitem__", "__getnewargs__", "__iter__", "__len__", "__mod__",
     "__mul__", "__rmod__", "__rmul__"]
  | .atom (.int _) | .atom (.bool _) => guardedOfNumbers ++ guardedOfWholes
  | .atom (.float _) => "__getformat__" :: guardedOfNumbers
  | .atom .null => ["__bool__"]
  | .atom (.set _) =>
    guardedOfSets ++ ["__class_getitem__", "__iand__", "__ior__", "__isub__", "__ixor__"]
  | .atom (.date _) | .atom (.moment _) => ["__add__", "__radd__", "__rsub__", "__sub__"]
  | .atom _ => []
  | .list _ =>
    ["__add__", "__class_getitem__", "__contains__", "__delitem__", "__getitem__", "__iadd__",
     "__imul__", "__iter__", "__len__", "__mul__", "__reversed__", "__rmul__", "__setitem__"]
  | .map _ =>
    ["__class_getitem__", "__contains__", "__delitem__", "__getitem__", "__ior__", "__iter__", "__len__",
     "__or__", "__reversed__", "__ror__", "__setitem__"]
  | .tuple _ | .group _ _ =>
    ["__add__", "__class_getitem__", "__contains__", "__getitem__", "__getnewargs__", "__iter__",
     "__len__", "__mul__", "__rmul__"]
  | .range .. => ["__bool__", "__contains__", "__getitem__", "__iter__", "__len__", "__reversed__"]
  | .view .values _ => ["__iter__", "__len__", "__reversed__"]
  | .view _ _ => "__reversed__" :: guardedOfSets
  | .cursor _ => ["__iter__", "__next__"]
  | .object _ => ["__dict__", "__module__", "__weakref__"]
  | .undefined .. =>
    ["__dict__", "__module__", "__add__", "__bool__", "__call__", "__contains__", "__getitem__",
     "__iter__", "__len__", "__slots__"]
  | .function _ => ["__call__", "__dict__", "__module__"]
  | .method _ _ =>
    ["__call__", "__module__", "__name__", "__qualname__", "__self__", "__text_signature__"]

def methods : Item → List String
  | .atom (.str _) => textMethods
  | .atom (.set _) => setMethods
  | .atom (.int _) | .atom (.bool _) => wholeMethods
  | .atom (.float _) => floatMethods
  | .atom (.date _) | .atom (.moment _) => dateMethods
  | .map _ => mapMethods
  | .list _ => listMethods
  | .tuple _ | .group _ _ | .range .. => tupleMethods
  | _ => []

def field? (item : Item) (name : String) : Option Item :=
  match item, name with
  | .atom (.date d), "year" => some (.int d.year)
  | .atom (.date d), "month" => some (.int d.month)
  | .atom (.date d), "day" => some (.int d.day)
  | .atom (.moment m), "year" => some (.int m.date.year)
  | .atom (.moment m), "month" => some (.int m.date.month)
  | .atom (.moment m), "day" => some (.int m.date.day)
  | .atom (.moment m), "hour" => some (.int m.hour)
  | .atom (.moment m), "minute" => some (.int m.minute)
  | .atom (.moment m), "second" => some (.int m.second)
  | .atom (.moment m), "microsecond" => some (.int m.micro)
  | .atom (.float x), "real" => some (.atom (.float x))
  | .atom (.float _), "imag" => some (.atom (.float 0.0))
  | .atom v, "real" | .atom v, "numerator" => v.asInt?.map .int
  | .atom v, "imag" => v.asInt?.map fun _ => .int 0
  | .atom v, "denominator" => v.asInt?.map fun _ => .int 1
  | .range start _ _, "start" => some (.int start)
  | .range _ stop _, "stop" => some (.int stop)
  | .range _ _ step, "step" => some (.int step)
  | .group key _, "grouper" => some key
  | .group _ members, "list" => some members
  | _, _ => none

end Item

namespace Eval

def noNeighbour (text : String) : Item := .undefined .undefined text

/-- The next item of a loop, which is then held back. -/
def lookAhead (ref : Ref) (l : Loop) : Eval (Option Item) := do
  match l.ahead with
  | some item => return some item
  | none =>
    let found ← next l.cursor
    put ref (.loop { l with ahead := found })
    return found

/-- How many rounds a loop has; for that, all that is still to come may have to be taken. -/
def loopLength (ref : Ref) (l : Loop) : Eval Nat := do
  match l.length with
  | some n => return n
  | none =>
    match (← get).size? l.source with
    | some n =>
      put ref (.loop { l with length := some n })
      return n
    | none =>
      let rest ← drain l.cursor
      let cursor ← make (.cursor "list_iterator" (.items rest))
      let n := rest.length + (l.index + 1).toNat + (if l.ahead.isSome then 1 else 0)
      put ref (.loop { l with cursor := cursor, length := some n })
      return n

def loopMember? (ref : Ref) (l : Loop) (name : String) : Eval (Option Item) := do
  match name with
  | "index0" => return some (.int l.index)
  | "index" => return some (.int (l.index + 1))
  | "revindex0" => return some (.int ((← loopLength ref l) - l.index - 1))
  | "revindex" => return some (.int ((← loopLength ref l) - l.index))
  | "length" => return some (.int (← loopLength ref l))
  | "first" => return some (.bool (l.index == 0))
  | "last" => return some (.bool (← lookAhead ref l).isNone)
  | "depth" => return some (.int (l.depth + 1))
  | "depth0" => return some (.int l.depth)
  | "previtem" =>
    return some (if l.index == 0 then noNeighbour "there is no previous item"
      else l.previous.getD (noNeighbour "there is no previous item"))
  | "nextitem" => return some ((← lookAhead ref l).getD (noNeighbour "there is no next item"))
  | "cycle" | "changed" => return some (.method (.object ref) name)
  | _ => return none

def objectMember? (ref : Ref) (name : String) : Eval (Option Item) := do
  match (← get).cells[ref]? with
  | some (.loop l) => loopMember? ref l name
  | some (.names entries) => return Store.find? entries (.str name)
  | some (.cycler items place) =>
    match name with
    | "current" => return items[place]?
    | "pos" => return some (.int place)
    | "items" => return some (.tuple items)
    | "next" | "reset" => return some (.method (.object ref) name)
    | _ => return none
  | some (.joiner separator isUsed) =>
    match name with
    | "sep" => return some separator
    | "used" => return some (.bool isUsed)
    | _ => return none
  | some (.routine r) =>
    match name with
    | "name" => return some (.str r.name)
    | "arguments" => return some (.tuple (r.parameters.map fun (word, _) => .str word))
    | _ => return none
  | some (.bytes _) =>
    return if name == "decode" || name == "hex" then some (.method (.object ref) name) else none
  | _ => return none

def own? (item : Item) (name : String) : Eval (Option Item) := do
  if Item.guarded.contains name || item.guardedOwn.contains name then
    return some (.undefined .security ("access to attribute " ++ Text.quoted name ++ " of " ++
      Text.quoted ((← get).shortTypeName item) ++ " object is unsafe."))
  else
    match item with
    | .object ref => objectMember? ref name
    | .undefined fault text => throw (.broken fault text)
    | .view _ ref =>
      if name == "mapping" then return some (.atom (.object "mappingproxy"))
      else if name == "isdisjoint" then return some (.method (.map ref) name)
      else return none
    | _ =>
      match item.field? name with
      | some found => return some found
      | none => return if item.methods.contains name then some (.method item name) else none

def part? (item key : Item) : Eval (Option Item) := do
  let at? {α : Type} (parts : List α) : Option α := key.int?.bind (Functions.itemAt? parts)
  match item with
  | .map ref =>
    let store ← get
    let k := store.plain (← require key)
    return if k.hashable then Store.find? (store.entriesAt ref) k else none
  | .list ref => return at? ((← get).listAt ref)
  | .tuple items => return at? items
  | .group label members => return at? [label, members]
  | .range start stop step =>
    match key.int? with
    | none => return none
    | some n =>
      let size : Int := Item.count start stop step
      let place := if n < 0 then n + size else n
      return if 0 ≤ place && place < size then some (.int (start + place * step)) else none
  | .atom (.str s) => return (at? s.toList).map fun c => .str (String.singleton c)
  | .undefined fault text => throw (.broken fault text)
  | _ => return none

def absent (item key : Item) : Eval Item := do
  let store ← get
  let title := store.title item
  return .undefined .undefined <|
    match key with
    | .atom (.str name) => Text.quoted title ++ " has no attribute " ++ Text.quoted name
    | _ => title ++ " has no element " ++ store.shown key

def member (item : Item) (name : String) : Eval Item := do
  match ← own? item name with
  | some found => return found
  | none =>
    match ← part? item (.str name) with
    | some found => return found
    | none => absent item (.str name)

def subscript (item key : Item) : Eval Item := do
  match ← part? item key with
  | some found => return found
  | none =>
    match key with
    | .atom (.str name) =>
      match ← own? item name with
      | some found => return found
      | none => absent item key
    | _ => absent item key

/-- The first and the last place of a slice, and how many places it has. -/
def sliceBounds (length : Nat) (start stop : Option Int) (step : Int) : Int × Int :=
  let n : Int := length
  let clamp (low high k : Int) : Int := max low (min high (if k < 0 then k + n else k))
  if step > 0 then ((start.map (clamp 0 n)).getD 0, (stop.map (clamp 0 n)).getD n)
  else ((start.map (clamp (-1) (n - 1))).getD (n - 1), (stop.map (clamp (-1) (n - 1))).getD (-1))

def slicePlaces (length : Nat) (start stop : Option Int) (step : Int) : List Nat :=
  let (first, last) := sliceBounds length start stop step
  (Item.numbers first last step).map Int.toNat

def badSliceIndex : Error :=
  .broken .type "slice indices must be integers or None or have an __index__ method"

def sliceBound (item : Item) : Except Error (Option Int) :=
  if item.isNull then .ok none
  else match item.int? with
    | some n => .ok (some n)
    | none => .error badSliceIndex

def slice (item start stop step : Item) : Eval Item := do
  let item ← require item
  match item with
  | .list _ | .tuple _ | .group _ _ | .atom (.str _) | .range .. => do
    let step := (← settle (sliceBound step)).getD 1
    if step == 0 then throw (.broken .value "slice step cannot be zero")
    let start ← settle (sliceBound start)
    let stop ← settle (sliceBound stop)
    let cut {α : Type} (parts : List α) : List α :=
      (slicePlaces parts.length start stop step).filterMap (parts[·]?)
    match item with
    | .atom (.str s) => return .str (String.ofList (cut s.toList))
    | .range first last by_ =>
      let (low, high) := sliceBounds (Item.count first last by_) start stop step
      return .range (first + low * by_) (first + high * by_) (by_ * step)
    | .list ref => list (cut ((← get).listAt ref))
    | _ => return .tuple (cut (← items item))
  | .map _ => throw (.broken .type "unhashable type: 'slice'")
  | _ => throw (.broken .type ("'" ++ (← typeName item) ++ "' object is not subscriptable"))

end Eval

end Orchestration.Template
