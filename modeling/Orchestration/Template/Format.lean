import Orchestration.Template.Arguments
import Orchestration.Text.Percent

/-!
Text with places that are marked by braces, or by percent signs.

Between braces stand the number or the name of an argument, a path into it, a conversion and a
pattern, as in `{0.size!r:>8}`. The pattern may have places of its own.
-/

namespace Orchestration.Template

structure Field where
  name : List Char
  conversion : Option Char
  pattern : List Char

namespace Field

def wrong (text : String) : Error := .broken .value text

/-- The name of a field and the character that ends it. Brackets may hold such characters. -/
def readName : Nat → List Char → Except Error (List Char × Option Char × List Char)
  | 0, cs => .ok ([], none, cs)
  | _ + 1, [] => .ok ([], none, [])
  | fuel + 1, c :: rest =>
    if c == '\x7b' then .error (wrong "unexpected '\x7b' in field name")
    else if c == '\x7d' || c == ':' || c == '!' then .ok ([], some c, rest)
    else if c == '[' then do
      let inner := rest.takeWhile (· != ']')
      let (name, last, after) ← readName fuel (rest.drop inner.length)
      .ok (c :: inner ++ name, last, after)
    else do
      let (name, last, after) ← readName fuel rest
      .ok (c :: name, last, after)

/-- The pattern of a field up to the brace that closes it. -/
def readPattern : Nat → List Char → Except Error (List Char × List Char)
  | _, [] => .error (wrong "unmatched '\x7b' in format spec")
  | depth, c :: rest =>
    if c == '\x7d' && depth == 0 then .ok ([], rest)
    else do
      let (pattern, after) ← readPattern
        (if c == '\x7b' then depth + 1 else if c == '\x7d' then depth - 1 else depth) rest
      .ok (c :: pattern, after)

def read (cs : List Char) : Except Error (Field × List Char) := do
  let (name, last, rest) ← readName (cs.length + 1) cs
  match last with
  | some ':' =>
    let (pattern, after) ← readPattern 0 rest
    return (⟨name, none, pattern⟩, after)
  | some '!' =>
    match rest with
    | [] => throw (wrong "end of string while looking for conversion specifier")
    | conversion :: rest =>
      match rest with
      | '\x7d' :: after => return (⟨name, some conversion, []⟩, after)
      | ':' :: rest =>
        let (pattern, after) ← readPattern 0 rest
        return (⟨name, some conversion, pattern⟩, after)
      | [] => throw (wrong "unmatched '\x7b' in format spec")
      | _ => throw (wrong "expected ':' after conversion specifier")
  | some _ => return (⟨name, none, []⟩, rest)
  | none => throw (wrong "expected '\x7d' before end of string")

def number? (cs : List Char) : Except Error (Option Nat) :=
  match cs.mapM Text.digitValue? with
  | none | some [] => .ok none
  | some digits =>
    let n := Number.ofDigits digits
    if n > Text.Layout.maxWidth then .error (wrong "Too many decimal digits in format string")
    else .ok (some n)

inductive Step where
  | member (name : String)
  | part (key : Item)

def isStepStart (c : Char) : Bool := c == '.' || c == '['

def keyOf (cs : List Char) : Except Error Item := do
  match ← number? cs with
  | some n => .ok (.int n)
  | none => .ok (.str (String.ofList cs))

def readStep (cs : List Char) : Except Error (Step × List Char) := do
  match cs with
  | '.' :: rest =>
    let name := rest.takeWhile (!isStepStart ·)
    if name.isEmpty then throw (wrong "Empty attribute in format string")
    return (.member (String.ofList name), rest.drop name.length)
  | '[' :: rest =>
    let key := rest.takeWhile (· != ']')
    if key.length == rest.length then throw (wrong "Missing ']' in format string")
    let item ← keyOf key
    if key.isEmpty then throw (wrong "Empty attribute in format string")
    return (.part item, rest.drop (key.length + 1))
  | _ => throw (wrong "Only '.' or '[' may follow ']' in format field specifier")

end Field

/-- How the places without a name are counted: by themselves, or by numbers that are written out. -/
inductive Numbering where
  | automatic (next : Nat)
  | manual

namespace Eval

def layOut (item : Item) (pattern : String) : Eval String := do
  if pattern.isEmpty then text item
  else
    match item with
    | .atom v => settle (Text.layOut v pattern)
    | _ => throw (.broken .type ("unsupported format string passed to " ++ (← typeName item) ++ ".__format__"))

def converted (item : Item) : Option Char → Eval Item
  | none => return item
  | some 's' => do return .str (← text item)
  | some 'r' => do return .str (← shown item)
  | some 'a' => do return .str (Text.Percent.onlyAscii (← shown item))
  | some c => throw (Field.wrong ("Unknown conversion specifier " ++ String.singleton c))

def followSteps : Nat → Item → List Char → Eval Item
  | 0, item, _ => return item
  | _ + 1, item, [] => return item
  | fuel + 1, item, cs => do
    let (step, rest) ← settle (Field.readStep cs)
    let next ← match step with
      | .member name => member item name
      | .part key => subscript item key
    followSteps fuel next rest

def fieldItem (arguments : List Item) (find : String → Eval Item) (name : List Char) :
    Eval Item := do
  let first := name.takeWhile (!Field.isStepStart ·)
  let item ← match ← settle (Field.number? first) with
    | some n =>
      match arguments[n]? with
      | some item => pure item
      | none => throw (.broken .index "tuple index out of range")
    | none => find (String.ofList first)
  followSteps (name.length + 1) item (name.drop first.length)

def switched : Error :=
  Field.wrong "cannot switch from manual field specification to automatic field numbering"

/-- The name of a field, and how the next ones are counted. -/
def numbered (numbering : Numbering) (name : List Char) : Except Error (List Char × Numbering) :=
  if name.isEmpty then
    match numbering with
    | .automatic n => .ok ((toString n).toList, .automatic (n + 1))
    | .manual => .error switched
  else if name.all Text.isDigitSign then
    match numbering with
    | .automatic (_ + 1) => .error switched
    | _ => .ok (name, .manual)
  else .ok (name, numbering)

/-- Fills the places between braces. `depth` bounds how deep patterns may have places of their
own. -/
def fillBraces (arguments : List Item) (find : String → Eval Item) :
    Nat → Nat → Numbering → List Char → Eval (String × Numbering)
  | 0, _, numbering, _ => return ("", numbering)
  | _ + 1, 0, _, _ => throw (Field.wrong "Max string recursion exceeded")
  | _ + 1, _ + 1, numbering, [] => return ("", numbering)
  | fuel + 1, depth + 1, numbering, c :: rest => do
    let onward (numbering : Numbering) (head : String) (rest : List Char) : Eval (String × Numbering) := do
      let (tail, last) ← fillBraces arguments find fuel (depth + 1) numbering rest
      return (head ++ tail, last)
    if c == '\x7d' then
      match rest with
      | '\x7d' :: after => onward numbering "\x7d" after
      | _ => throw (Field.wrong "Single '\x7d' encountered in format string")
    else if c == '\x7b' then
      match rest with
      | [] => throw (Field.wrong "Single '\x7b' encountered in format string")
      | d :: after =>
        if d == '\x7b' then onward numbering "\x7b" after
        else
          let (field, after) ← settle (Field.read rest)
          let (name, numbering) ← settle (numbered numbering field.name)
          let item ← fieldItem arguments find name
          let item ← converted item field.conversion
          let (pattern, numbering) ← fillBraces arguments find fuel depth numbering field.pattern
          onward numbering (← layOut item pattern) after
    else onward numbering (String.singleton c) rest

def entry (item : Item) (name : String) : Eval Item := do
  match item with
  | .map ref =>
    match Store.find? ((← get).entriesAt ref) (.str name) with
    | some found => return found
    | none => throw (.broken .key (Value.str name).shown)
  | .undefined fault text => throw (.broken fault text)
  | .list _ | .tuple _ | .group _ _ | .range .. | .atom (.str _) =>
    throw (Functions.indicesMustBeWhole (← plain item) (.str name))
  | _ => throw (.broken .type ("'" ++ (← typeName item) ++ "' object is not subscriptable"))

def format (s : String) (given : Given) : Eval Item := do
  let find (name : String) : Eval Item := do
    match given.named.find? (·.1 == name) with
    | some (_, item) => return item
    | none => throw (.broken .key (Value.str name).shown)
  let (written, _) ← fillBraces given.positional find (s.length + 1) 3 (.automatic 0) s.toList
  return .str written

def formatMap (s : String) (given : Given) : Eval Item := do
  match given.positional, given.named with
  | [item], [] =>
    let (written, _) ← fillBraces [] (entry item) (s.length + 1) 3 (.automatic 0) s.toList
    return .str written
  | items, _ =>
    throw (Given.wrong ("format_map() takes exactly one argument " ++ toString (items.length + 1) ++ " given"))

def percent (s : String) (item : Item) : Eval Item := do
  let store ← get
  let face : Text.Percent.Face Item :=
    ⟨store.text, store.shown, fun item => do .ok (store.plain (← item.require))⟩
  let byName (name : String) : Except Error Item :=
    match item with
    | .map ref => ((Store.find? (store.entriesAt ref) (.str name)).map .ok).getD
        (.error (.broken .key (Value.str name).shown))
    | _ => do
      let _ ← Functions.subscript (store.plain (← item.require)) (.str name)
      .error (.broken .type "format requires a mapping")
  let supply : Text.Percent.Supply Item := match item with
    | .tuple items => ⟨items, none⟩
    | .group key members => ⟨[key, members], none⟩
    | .map _ | .list _ | .range .. | .undefined .. => ⟨[item], some byName⟩
    | _ => ⟨[item], none⟩
  return .str (← settle (Text.fillPlaces face supply s))

end Eval

end Orchestration.Template
