import Orchestration.Sorting
import Orchestration.Template.TextMethod

/-!
The methods of lists, mappings and everything else that is no text.

Lists and mappings are changed in place, so that everyone who holds one sees the change.
-/

namespace Orchestration.Template.Eval

def isLess (a b : Item) : Eval Bool := ask (·.compares .less a b)

/-- Sorts pairs of a key and an item by their keys; in reverse, items of the same rank keep their
order. -/
def sortPairs (isReverse : Bool) (pairs : List (Item × Item)) : Eval (List Item) := do
  let before (a b : Item × Item) : Eval Bool := isLess a.1 b.1
  let sorted ← Sorting.sort before (if isReverse then pairs.reverse else pairs)
  return (if isReverse then sorted.reverse else sorted).map (·.2)

def placeOf? (item : Item) (place : Nat) : List Item → Eval (Option Nat)
  | [] => return none
  | other :: rest => do
    if ← same other item then return some place else placeOf? item (place + 1) rest

def countOf (item : Item) (items : List Item) : Eval Nat :=
  items.foldlM (fun n other => do return if ← same other item then n + 1 else n) 0

def strictBound (other : Int) (item : Option Item) : Eval Int := do
  match item with
  | none => return other
  | some item =>
    match item.int? with
    | some n => return n
    | none => throw (Given.wrong "slice indices must be integers or have an __index__ method")

def indexIn (kind : String) (items : List Item) (given : Given) : Eval Item := do
  let arguments ← settle (given.between (kind ++ ".index") "index" 1 3)
  let start ← strictBound 0 arguments[1]?
  let stop ← strictBound maxIndex arguments[2]?
  let item := arguments.headD .null
  let (first, last) := Text.bounds items.length start stop
  match ← placeOf? item first.toNat ((items.take last.toNat).drop first.toNat) with
  | some n => return .int n
  | none =>
    let text ← shown item
    throw (.broken .value (if kind == "list" then text ++ " is not in list" else "tuple.index(x): x not in tuple"))

def popped (ref : Ref) (items : List Item) (given : Given) : Eval Item := do
  let arguments ← settle (given.between "list.pop" "pop" 0 1)
  let place ← match arguments with
    | item :: _ => whole item
    | [] => pure (-1)
  if items.isEmpty then throw (.broken .index "pop from empty list")
  let index := if place < 0 then place + items.length else place
  if index < 0 then throw (.broken .index "pop index out of range")
  match items[index.toNat]? with
  | some item =>
    setList ref (items.eraseIdx index.toNat)
    return item
  | none => throw (.broken .index "pop index out of range")

def sorted (ref : Ref) (items : List Item) (given : Given) : Eval Item := do
  let arguments ← settle (given.onlyNamed "sort" ["key", "reverse"])
  let isReverse ← match (arguments[1]?).join with
    | some item => flag item
    | none => pure false
  let rank : Option Item := (arguments[0]?).join
  let pairs ← match rank with
    | none | some (Item.atom .null) => pure (items.map fun item => (item, item))
    | some f => items.mapM fun item => do return (← call f ⟨[item], []⟩, item)
  setList ref (← sortPairs isReverse pairs)
  return .null

def callOnList (ref : Ref) (name : String) (given : Given) : Eval Item := do
  let title := "list." ++ name
  let held := (← get).listAt ref
  match name with
  | "append" =>
    let item ← settle (given.single title)
    setList ref (held ++ [item])
    return .null
  | "extend" =>
    let more ← items (← settle (given.single title))
    setList ref ((← get).listAt ref ++ more)
    return .null
  | "insert" =>
    let arguments ← settle (given.between title name 2 2)
    let place ← whole (arguments.headD .null)
    let n : Int := held.length
    let index := (max 0 (min n (if place < 0 then place + n else place))).toNat
    setList ref (held.take index ++ (arguments[1]?).getD .null :: held.drop index)
    return .null
  | "remove" =>
    let item ← settle (given.single title)
    match ← placeOf? item 0 held with
    | some n =>
      setList ref (held.eraseIdx n)
      return .null
    | none => throw (.broken .value "list.remove(x): x not in list")
  | "pop" => popped ref held given
  | "clear" =>
    settle (given.nothing title)
    setList ref []
    return .null
  | "copy" =>
    settle (given.nothing title)
    list held
  | "reverse" =>
    settle (given.nothing title)
    setList ref held.reverse
    return .null
  | "count" => return .int (← countOf (← settle (given.single title)) held)
  | "index" => indexIn "list" held given
  | _ => sorted ref held given

/-- The pairs that some parts are read as, each counted by its place. -/
def readPairs (place : Nat) (entries : List (Value × Item)) : List Item → Eval (List (Value × Item))
  | [] => return entries
  | part :: rest => do
    let element := "dictionary update sequence element #" ++ toString place
    let two ← match part with
      | .cursor _ | .undefined .. => items part
      | _ =>
        match (← get).parts? part with
        | some parts => pure parts
        | none => throw (Given.wrong ("cannot convert " ++ element ++ " to a sequence"))
    match two with
    | [k, v] => readPairs (place + 1) (Store.withEntry entries (← key k) v) rest
    | _ =>
      throw (.broken .value (element ++ " has length " ++ toString two.length ++ "; 2 is required"))

/-- Entries with those of an argument and of names put over them. -/
def updated (entries : List (Value × Item)) (item : Option Item) (named : List (String × Item)) :
    Eval (List (Value × Item)) := do
  let entries ← match item with
    | none => pure entries
    | some (.map ref) =>
      pure (((← get).entriesAt ref).foldl (fun es (k, v) => Store.withEntry es k v) entries)
    | some item => readPairs 0 entries (← items item)
  return named.foldl (fun es (word, v) => Store.withEntry es (.str word) v) entries

def keyMissing (k : Value) : Error := .broken .key k.shown

def callOnMap (ref : Ref) (name : String) (given : Given) : Eval Item := do
  let title := "dict." ++ name
  let entries := (← get).entriesAt ref
  let without (k : Value) : List (Value × Item) := entries.filter fun (other, _) => !(other == k)
  match name with
  | "keys" =>
    settle (given.nothing title)
    return .view .keys ref
  | "values" =>
    settle (given.nothing title)
    return .view .values ref
  | "items" =>
    settle (given.nothing title)
    return .view .items ref
  | "copy" =>
    settle (given.nothing title)
    mapping entries
  | "clear" =>
    settle (given.nothing title)
    setEntries ref []
    return .null
  | "get" =>
    let arguments ← settle (given.between title name 1 2)
    let k ← key (arguments.headD .null)
    return (Store.find? entries k).getD ((arguments[1]?).getD .null)
  | "setdefault" =>
    let arguments ← settle (given.between title name 1 2)
    let k ← key (arguments.headD .null)
    match Store.find? entries k with
    | some found => return found
    | none =>
      let item := (arguments[1]?).getD .null
      setEntries ref (entries ++ [(k, item)])
      return item
  | "pop" =>
    let arguments ← settle (given.between title name 1 2)
    let k ← if entries.isEmpty then plain (arguments.headD .null) else key (arguments.headD .null)
    match Store.find? entries k, arguments[1]? with
    | some found, _ =>
      setEntries ref (without k)
      return found
    | none, some other => return other
    | none, none => throw (keyMissing k)
  | "popitem" =>
    settle (given.nothing title)
    match entries.getLast? with
    | some (k, item) =>
      setEntries ref entries.dropLast
      return .tuple [.ofKey k, item]
    | none => throw (keyMissing (.str "popitem(): dictionary is empty"))
  | "update" =>
    let arguments ← settle (Given.between title name 0 1 ⟨given.positional, []⟩)
    setEntries ref (← updated entries arguments[0]? given.named)
    return .null
  | "fromkeys" =>
    let arguments ← settle (given.between title name 1 2)
    let found ← (← items (arguments.headD .null)).foldlM (fun es item => do
      return Store.withEntry es (← key item) ((arguments[1]?).getD .null)) []
    mapping found
  | _ =>
    let item ← settle (given.single ("dict_keys." ++ name))
    let others ← items item
    return .bool !(← others.anyM fun other => do return (Store.find? entries (← key other)).isSome)

def callOnTuple (parts : List Item) (name : String) (given : Given) : Eval Item := do
  if name == "count" then return .int (← countOf (← settle (given.single "tuple.count")) parts)
  else indexIn "tuple" parts given

def callOnRange (start stop step : Int) (name : String) (given : Given) : Eval Item := do
  let item ← settle (given.single ("range." ++ name))
  let numbers := (Item.numbers start stop step).map Item.int
  if name == "count" then return .int (← countOf item numbers)
  else
    match ← placeOf? item 0 numbers with
    | some n => return .int n
    | none => throw (.broken .value ((← shown item) ++ " is not in range"))

def bitLength (n : Nat) : Nat := if n == 0 then 0 else n.log2 + 1

def onesIn (n : Nat) : Nat := ((Nat.toDigits 2 n).filter (· == '1')).length

def notAvailable (name : String) : Error := .broken .type (name ++ "() is not available")

def hexadecimal (width n : Nat) : String :=
  let digits := Nat.toDigits 16 n
  String.ofList (List.replicate (width - digits.length) '0' ++ digits)

/-- A number in base sixteen, with an exponent of two. -/
def hexadecimalOf (x : Float) : String :=
  match Number.parts x with
  | .finite negative mantissa exponent =>
    let sign := if negative then "-" else ""
    if mantissa == 0 then sign ++ "0x0.0p+0"
    else
      let isSmall := mantissa < Nat.pow 2 52
      let power := exponent + 52
      sign ++ (if isSmall then "0x0." else "0x1.") ++ hexadecimal 13 (mantissa % Nat.pow 2 52) ++ "p" ++
        (if power < 0 then "-" else "+") ++ toString power.natAbs
  | _ => (Value.float x).text

def callOnNumber (v : Value) (name : String) (given : Given) : Eval Item := do
  settle (given.nothing (v.typeName ++ "." ++ name))
  match v.asInt?, v, name with
  | some n, _, "bit_length" => return .int (bitLength n.natAbs)
  | some n, _, "bit_count" => return .int (onesIn n.natAbs)
  | some n, _, "conjugate" => return .int n
  | some n, _, "as_integer_ratio" => return .tuple [.int n, .int 1]
  | none, .float x, "is_integer" => return .bool (Number.isFinite x && Number.isWhole x)
  | none, .float x, "hex" => return .str (hexadecimalOf x)
  | none, .float x, "conjugate" => return .atom (.float x)
  | none, .float x, "as_integer_ratio" =>
    match Number.toFraction? x with
    | some (n, d) => return .tuple [.int (n / (n.gcd d)), .int (d / (n.gcd d))]
    | none =>
      if x == x then throw (.broken .overflow "cannot convert Infinity to integer ratio")
      else throw (.broken .value "cannot convert NaN to integer ratio")
  | _, _, _ => throw (notAvailable name)

def callOnMoment (v : Value) (name : String) : Eval Item :=
  match v, name with
  | .date d, "isoformat" => return .str d.text
  | .moment m, "isoformat" => return .str (m.textWith "T")
  | .date d, "toordinal" => return .int d.ordinal
  | .moment m, "toordinal" => return .int m.date.ordinal
  | .date d, "weekday" => return .int ((d.ordinal + 6) % 7)
  | .moment m, "weekday" => return .int ((m.date.ordinal + 6) % 7)
  | .date d, "isoweekday" => return .int ((d.ordinal + 6) % 7 + 1)
  | .moment m, "isoweekday" => return .int ((m.date.ordinal + 6) % 7 + 1)
  | _, _ => throw (notAvailable name)

/-- Whether the items that a loop was shown last differ from those before. -/
def changed (ref : Ref) (l : Loop) (shown : List Item) : Eval Item := do
  let isSame ← match l.remembered with
    | none => pure false
    | some before => same (.tuple before) (.tuple shown)
  if isSame then return .bool false
  else
    put ref (.loop { l with remembered := some shown })
    return .bool true

def callOnObject (ref : Ref) (name : String) (given : Given) : Eval Item := do
  match (← get).cells[ref]?, name with
  | some (.loop l), "cycle" =>
    if given.positional.isEmpty then throw (Given.wrong "no items for cycling given")
    return (given.positional[(l.index % given.positional.length).toNat]?).getD .null
  | some (.loop l), "changed" => changed ref l given.positional
  | some (.cycler items place), "next" =>
    put ref (.cycler items ((place + 1) % items.length))
    return (items[place]?).getD .null
  | some (.bytes content), "decode" => decoded content given
  | some (.bytes content), "hex" =>
    return .str (String.join (content.map fun b => hexadecimal 2 b.toNat))
  | some (.cycler items _), "reset" =>
    put ref (.cycler items 0)
    return .null
  | _, _ => throw (notAvailable name)

def callMethod (receiver : Item) (name : String) (given : Given) : Eval Item := do
  match receiver with
  | .atom (.str s) => callOnText s name given
  | .atom (.date d) => callOnMoment (.date d) name
  | .atom (.moment m) => callOnMoment (.moment m) name
  | .atom v => callOnNumber v name given
  | .map ref => callOnMap ref name given
  | .list ref => callOnList ref name given
  | .tuple parts => callOnTuple parts name given
  | .group label members => callOnTuple [label, members] name given
  | .range start stop step => callOnRange start stop step name given
  | .object ref => callOnObject ref name given
  | _ => throw (notAvailable name)

end Orchestration.Template.Eval
