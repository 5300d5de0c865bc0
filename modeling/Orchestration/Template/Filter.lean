import Orchestration.Json.Writer
import Orchestration.Template.Ranking
import Orchestration.Template.Test

/-!
Filters: the functions that a template applies with a bar.

Some filters give their items one by one: nothing is computed before the first of them is taken.
-/

namespace Orchestration.Template

/-- A filter: its parameters, and how many of them come before the item that is filtered. -/
structure Filter where
  signature : Signature
  hidden : Nat

namespace Filter

def plain (title : String) (required optional : List String) : Filter :=
  ⟨⟨title, required, optional⟩, 0⟩

def within (title hidden : String) (required optional : List String) : Filter :=
  ⟨⟨title, hidden :: required, optional⟩, 1⟩

end Filter

def filters : List (String × Filter) :=
  [("attr", .within "do_attr" "environment" ["obj", "name"] []),
   ("batch", .plain "do_batch" ["value", "linecount"] ["fill_with"]),
   ("capitalize", .plain "do_capitalize" ["s"] []),
   ("center", .plain "do_center" ["value"] ["width"]),
   ("d", .plain "do_default" ["value"] ["default_value", "boolean"]),
   ("default", .plain "do_default" ["value"] ["default_value", "boolean"]),
   ("dictsort", .plain "do_dictsort" ["value"] ["case_sensitive", "by", "reverse"]),
   ("e", .plain "escape" ["s"] []),
   ("escape", .plain "escape" ["s"] []),
   ("filesizeformat", .plain "do_filesizeformat" ["value"] ["binary"]),
   ("first", .within "sync_do_first" "environment" ["seq"] []),
   ("float", .plain "do_float" ["value"] ["default"]),
   ("forceescape", .plain "do_forceescape" ["value"] []),
   ("groupby", .within "sync_do_groupby" "environment" ["value", "attribute"] ["default", "case_sensitive"]),
   ("indent", .plain "do_indent" ["s"] ["width", "first", "blank"]),
   ("int", .plain "do_int" ["value"] ["default", "base"]),
   ("items", .plain "do_items" ["value"] []),
   ("join", .within "sync_do_join" "eval_ctx" ["value"] ["d", "attribute"]),
   ("last", .within "do_last" "environment" ["seq"] []),
   ("list", .plain "sync_do_list" ["value"] []),
   ("lower", .plain "do_lower" ["s"] []),
   ("max", .within "do_max" "environment" ["value"] ["case_sensitive", "attribute"]),
   ("min", .within "do_min" "environment" ["value"] ["case_sensitive", "attribute"]),
   ("pprint", .plain "do_pprint" ["value"] []),
   ("random", .within "do_random" "context" ["seq"] []),
   ("replace", .within "do_replace" "eval_ctx" ["s", "old", "new"] ["count"]),
   ("reverse", .plain "do_reverse" ["value"] []),
   ("round", .plain "do_round" ["value"] ["precision", "method"]),
   ("safe", .plain "do_mark_safe" ["value"] []),
   ("slice", .plain "sync_do_slice" ["value", "slices"] ["fill_with"]),
   ("sort", .within "do_sort" "environment" ["value"] ["reverse", "case_sensitive", "attribute"]),
   ("string", .plain "soft_str" ["s"] []),
   ("striptags", .plain "do_striptags" ["value"] []),
   ("sum", .within "sync_do_sum" "environment" ["iterable"] ["attribute", "start"]),
   ("title", .plain "do_title" ["s"] []),
   ("tojson", .within "do_tojson" "eval_ctx" ["value"] ["indent"]),
   ("trim", .plain "do_trim" ["value"] ["chars"]),
   ("truncate", .within "do_truncate" "env" ["s"] ["length", "killwords", "end", "leeway"]),
   ("unique", .within "do_unique" "environment" ["value"] ["case_sensitive", "attribute"]),
   ("upper", .plain "do_upper" ["s"] []),
   ("urlencode", .plain "do_urlencode" ["value"] []),
   ("urlize", .within "do_urlize" "eval_ctx" ["value"]
     ["trim_url_limit", "nofollow", "target", "rel", "extra_schemes"]),
   ("wordcount", .plain "do_wordcount" ["s"] []),
   ("wordwrap", .within "do_wordwrap" "environment" ["s"]
     ["width", "break_long_words", "wrapstring", "break_on_hyphens"]),
   ("xmlattr", .within "do_xmlattr" "eval_ctx" ["d"] ["autospace"])]

/-- Filters that take one item and nothing else, each with the name that error texts use. -/
def singleFilters : List (String × String) :=
  [("abs", "abs"), ("count", "len"), ("length", "len")]

def openFilters : List String := ["format", "map", "reject", "rejectattr", "select", "selectattr"]

def filterNames : List String :=
  filters.map (·.1) ++ singleFilters.map (·.1) ++ openFilters ++ Functions.names

namespace Eval

def noFilter (name : String) : Error :=
  .broken .templateRun ("No filter named " ++ Text.quoted name ++ ".")

def argumentFault (text : String) : Error := .broken .templateArgument text

/-- A stream that is not looked at before the first item of it is taken. -/
def stream (source : Source) (item : Item) : Eval Item := cursor "generator" (.waiting source item)

/-! ### Text -/

def isWordStart (c : Char) : Bool :=
  Text.isBlank c || c == '-' || c == '(' || c == '\x7b' || c == '[' || c == '<'

def titleWords (s : String) : String :=
  let step (acc : List (List Char)) (c : Char) : List (List Char) :=
    match acc with
    | (d :: word) :: rest =>
      if isWordStart d == isWordStart c then (c :: d :: word) :: rest
      else [c] :: (d :: word) :: rest
    | _ => [[c]]
  let words := (s.toList.foldl step []).reverse.map List.reverse
  String.join (words.map fun word =>
    Text.upper (String.ofList (word.take 1)) ++ Text.lower (String.ofList (word.drop 1)))

def wordCount (isInside : Bool) : List Char → Nat
  | [] => 0
  | c :: rest =>
    if Text.isWordChar c then (if isInside then 0 else 1) + wordCount true rest
    else wordCount false rest

def escapeChar (c : Char) : String :=
  match c with
  | '&' => "&amp;"
  | '<' => "&lt;"
  | '>' => "&gt;"
  | '"' => "&#34;"
  | '\'' => "&#39;"
  | c => String.singleton c

def escaped (s : String) : String := String.join (s.toList.map escapeChar)

def indentLines (indention : String) (first blank : Bool) (s : String) : String :=
  let lines := Text.lines false [] (s ++ "\n").toList
  let body := match lines with
    | [] => ""
    | head :: rest => "\n".intercalate (head :: rest.map fun line =>
        if blank || !line.isEmpty then indention ++ line else line)
  if first then indention ++ body else body

def truncated (s : String) (length : Int) (killWords : Bool) (ending : String) (leeway : Int) :
    Except Error String := do
  if length < ending.length then
    throw (.broken .assertion ("expected length >= " ++ toString ending.length ++ ", got " ++ toString length))
  if leeway < 0 then throw (.broken .assertion ("expected leeway >= 0, got " ++ toString leeway))
  if s.length ≤ length + leeway then return s
  let cut := String.ofList (s.toList.take (length - ending.length).toNat)
  if killWords then return cut ++ ending
  return (Text.splitFromEnd " " cut (some 1)).headD "" ++ ending

def sizeText (isBinary : Bool) (x : Float) : Except Error String := do
  let base : Float := if isBinary then 1024.0 else 1000.0
  let units := if isBinary then ["KiB", "MiB", "GiB", "TiB", "PiB", "EiB", "ZiB", "YiB"]
    else ["kB", "MB", "GB", "TB", "PB", "EB", "ZB", "YB"]
  if x == 1.0 then return "1 Byte"
  if x < base then return toString (← (Value.float x).toWhole) ++ " Bytes"
  let scaled := units.zipIdx.map fun (unit, i) =>
    let size := Number.ofInt (Int.pow (if isBinary then 1024 else 1000) (i + 2))
    (unit, size)
  let (unit, size) := (scaled.find? fun (_, size) => x < size).getD (scaled.getLastD ("", 1.0))
  return (← Text.layOut (.float (base * x / size)) ".1f") ++ " " ++ unit

def isPlainInUrl (c : Char) : Bool := c.isAlphanum || c == '_' || c == '.' || c == '-' || c == '~'

def hexByte (n : Nat) : String :=
  "%" ++ String.ofList ((Text.hexDigits 2 n).map Char.toUpper)

def urlQuoted (inQuery : Bool) (s : String) : String :=
  String.join (s.toUTF8.toList.map fun b =>
    let c := Char.ofNat b.toNat
    if b.toNat < 128 && (isPlainInUrl c || (!inQuery && c == '/')) then String.singleton c
    else if inQuery && c == ' ' then "+"
    else hexByte b.toNat)

/-! ### Numbers -/

/-- The digits of a number in a base, set apart by single underscores. -/
def digitsIn? (base : Nat) (afterDigit : Bool) (n : Nat) : List Char → Option Nat
  | [] => if afterDigit then some n else none
  | c :: rest =>
    if c == '_' then if afterDigit then digitsIn? base false n rest else none
    else
      let value? := match Text.digitValue? c with
        | some d => some d
        | none =>
          if 'a' ≤ c.toLower && c.toLower ≤ 'z' then some (c.toLower.toNat - 'a'.toNat + 10)
          else none
      match value? with
      | some d => if d < base then digitsIn? base true (n * base + d) rest else none
      | none => none

def baseOf? (c : Char) : Option Nat :=
  match c.toLower with
  | 'b' => some 2
  | 'o' => some 8
  | 'x' => some 16
  | _ => none

/-- A whole number that is written in a base; a base of zero is told by a mark. -/
def wholeIn? (base : Int) (s : String) : Option Int := do
  if base == 1 || base < 0 || base > 36 then none
  let (negative, body) := Number.splitSign (Text.trim s).toList
  let marked := match body with
    | '0' :: c :: rest => (baseOf? c).bind fun b =>
        if base == 0 || base == b then
          some (b, match rest with
            | '_' :: more => more
            | _ => rest)
        else none
    | _ => none
  let n ← match marked with
    | some (b, digits) => digitsIn? b false 0 digits
    | none =>
      if base == 0 then
        if body.head? == some '0' && body.any (fun c => c != '0' && c != '_') then none
        else digitsIn? 10 false 0 body
      else digitsIn? base.toNat false 0 body
  some (if negative then -n else n)

/-- A number read leniently: what is no number gives `other`. -/
def wholeOr (item other base : Item) : Eval Item := do
  let v ← plain (← require item)
  let direct : Except Error Int := match v with
    | .str s =>
      match base.int?.bind fun b => wholeIn? b s with
      | some n => .ok n
      | none => .error (.broken .value "")
    | _ => v.toWhole
  match direct with
  | .ok n => return .int n
  | .error (.broken .overflow text) => throw (.broken .overflow text)
  | .error _ =>
    match v.toReal with
    | .ok x =>
      match Value.toWhole (.float x) with
      | .ok n => return .int n
      | .error _ => return other
    | .error _ => return other

def realOr (item other : Item) : Eval Item := do
  match (← plain (← require item)).toReal with
  | .ok x => return .atom (.float x)
  | .error (.broken .overflow text) => throw (.broken .overflow text)
  | .error _ => return other

/-- The whole number next to a number, above or below it. -/
def wholeNext (above : Bool) (v : Value) : Except Error Int := do
  match v with
  | .float x =>
    match Number.floor? (if above then -x else x) with
    | some n => .ok (if above then -n else n)
    | none => Value.toWhole v
  | _ =>
    match v.asInt? with
    | some n => .ok n
    | none => .error (.broken .type ("must be real number, not " ++ v.typeName))

/-- A number cut to some places, upward or downward. -/
def cutTo (above : Bool) (v places : Value) : Except Error Value := do
  let unit ← Value.power (.int 10) places
  let whole ← wholeNext above (← Value.mul v unit)
  Value.divide (.int whole) unit

def rounded (item places method : Item) : Eval Item := do
  let k ← key method
  if !([Value.str "common", .str "ceil", .str "floor"].any (· == k)) then
    throw (argumentFault "method must be common, ceil or floor")
  if k == .str "common" then
    let v ← plain item
    if !item.isNumber then
      throw (.broken .type ("type " ++ (← typeName item) ++ " doesn't define __round__ method"))
    if places.isNull then ofValue (← settle (do .ok (.int (← (← Value.round v 0).toWhole))))
    else ofValue (← settle (Value.round v (← whole places)))
  else
    ofValue (← settle (cutTo (k == .str "ceil") (← plain (← require item)) (← plain (← require places))))

/-! ### Collections -/

def reversed (item : Item) : Eval Item := do
  let backwards (type : String) : Eval Item := do cursor type (.items (← items item).reverse)
  match item with
  | .atom (.str s) => return .str (String.ofList s.toList.reverse)
  | .list ref => cursor "list_reverseiterator" (.fromEnd ref ((← get).listAt ref).length)
  | .tuple _ | .group _ _ => backwards "reversed"
  | .map _ | .view .keys _ => backwards "dict_reversekeyiterator"
  | .view .values _ => backwards "dict_reversevalueiterator"
  | .view .items _ => backwards "dict_reverseitemiterator"
  | .range .. => backwards "range_iterator"
  | .cursor _ | .atom (.set _) =>
    let found ← tryCatch (items item) fun
      | .broken .type _ => throw (argumentFault "argument must be iterable")
      | e => throw e
    list found.reverse
  | .undefined fault text => throw (.broken fault text)
  | _ => throw (argumentFault "argument must be iterable")

def lastItem (item : Item) : Eval Item := do
  match item with
  | .undefined fault text => throw (.broken fault text)
  | .cursor _ | .atom (.set _) =>
    throw (.broken .type ("'" ++ (← typeName item) ++ "' object is not reversible"))
  | _ =>
    match (← get).parts? item with
    | some parts =>
      return parts.getLast?.getD (.undefined .undefined "No last item, sequence was empty.")
    | none => throw (.broken .type ("'" ++ (← typeName item) ++ "' object is not reversible"))

def firstItem (item : Item) : Eval Item := do
  match ← next (← iterate item) with
  | some found => return found
  | none => return .undefined .undefined "No first item, sequence was empty."

def grouped (item path other : Item) (caseSensitive : Bool) : Eval Item := do
  let parts ← settle (pathParts path)
  let pairs ← (← items item).mapM fun part => do return (← rank caseSensitive other parts part, part)
  let sorted ← Sorting.sort (fun (a b : Item × Item) => isLess a.1 b.1) pairs
  let runs ← runsOf sorted
  list (← runs.mapM fun (label, members) => do
    let label ← match caseSensitive, members with
      | false, first :: _ => follow other parts first
      | _, _ => pure label
    return .group label (← list members))

def addOnto (source : Ref) (path : List Item) : Nat → Item → Eval Item
  | 0, _ => throw tooDeep
  | fuel + 1, total => do
    match ← next source with
    | none => return total
    | some part => addOnto source path fuel (← calculate .add total (← follow .null path part))

def summed (item path start : Item) : Eval Item := do
  let parts ← settle (pathParts path)
  let source ← iterate item
  if start.text?.isSome then
    throw (.broken .type "sum() can't sum strings [use ''.join(seq) instead]")
  addOnto source parts maxSteps start

def jsonFault? (store : Store) : Nat → Item → Option Error
  | 0, _ => some (.broken .value "Circular reference detected")
  | depth + 1, item =>
    match item with
    | .atom v =>
      match v with
      | .null | .bool _ | .int _ | .float _ | .str _ => none
      | _ => some (.broken .type ("Object of type " ++ store.shortTypeName item ++ " is not JSON serializable"))
    | .list ref => (store.listAt ref).findSome? (jsonFault? store depth)
    | .tuple items => items.findSome? (jsonFault? store depth)
    | .group label members => [label, members].findSome? (jsonFault? store depth)
    | .map ref => (store.entriesAt ref).findSome? fun (k, v) =>
        match k with
        | .null | .bool _ | .int _ | .float _ | .str _ => jsonFault? store depth v
        | _ => some (.broken .type ("keys must be str, int, float, bool or None, not " ++
            store.shortTypeName (.atom k)))
    | _ => some (.broken .type ("Object of type " ++ store.shortTypeName item ++ " is not JSON serializable"))

def orderedKeys : Nat → Value → Except Error Value
  | 0, v => .ok v
  | depth + 1, v =>
    match v with
    | .list items => do .ok (.list (← items.mapM (orderedKeys depth)))
    | .tuple items => do .ok (.tuple (← items.mapM (orderedKeys depth)))
    | .map entries => do
      let sorted ← Sorting.sort (fun (a b : Value × Value) => Value.less a.1 b.1) entries
      .ok (.map (← sorted.mapM fun (k, w) => do .ok (k, ← orderedKeys depth w)))
    | v => .ok v

def safeInPages (c : Char) : String :=
  match c with
  | '<' => "\\u003c"
  | '>' => "\\u003e"
  | '&' => "\\u0026"
  | '\'' => "\\u0027"
  | c => String.singleton c

def asJson (item indent : Item) : Eval Item := do
  let store ← get
  let v ← settle (orderedKeys Store.maxDepth (store.plain item))
  match jsonFault? store Store.maxDepth item with
  | some e => throw e
  | none =>
    let style := match indent.int? with
      | some n => Json.indented n.toNat
      | none => Json.oneLine
    return .str (String.join ((Json.write style v).toList.map safeInPages))

def entriesOf (item : Item) : Eval (List (Value × Item)) := do
  match item with
  | .map ref => return (← get).entriesAt ref
  | .undefined fault text => throw (.broken fault text)
  | _ =>
    throw (.broken .noAttribute ("'" ++ (← typeName item) ++ "' object has no attribute 'items'"))

def sortedEntries (item by_ : Item) (caseSensitive : Bool) (backwards : Item) : Eval Item := do
  let byKey ← same by_ (.str "key")
  let byValue ← same by_ (.str "value")
  if !byKey && !byValue then
    throw (argumentFault "You can only sort by either \"key\" or \"value\"")
  let pairs := (← entriesOf item).map fun (k, v) =>
    (ranked caseSensitive (if byKey then .ofKey k else v), Item.tuple [.ofKey k, v])
  list (← sortPairs (← flag backwards) pairs)

def encodedForUrl (item : Item) : Eval Item := do
  let quoted (part : Item) : Eval String := do return urlQuoted true (← text part)
  match item with
  | .map ref =>
    let pairs ← ((← get).entriesAt ref).mapM fun (k, v) => do
      return (← quoted (.ofKey k)) ++ "=" ++ (← quoted v)
    return .str ("&".intercalate pairs)
  | .list _ | .tuple _ | .cursor _ =>
    let pairs ← (← items item).mapM fun part => do
      match ← items part with
      | [k, v] => return (← quoted k) ++ "=" ++ (← quoted v)
      | parts =>
        if parts.length < 2 then
          throw (.broken .value ("not enough values to unpack (expected 2, got " ++ toString parts.length ++ ")"))
        else throw (.broken .value "too many values to unpack (expected 2)")
    return .str ("&".intercalate pairs)
  | _ => return .str (urlQuoted false (← text item))

/-! ### Applying filters -/

/-- Rows that take one item of each cursor; a cursor that is over gives `pad`. -/
def zipRows (pad : Item) (found : Array Item) : Nat → List (Option Ref) → Eval (List Item)
  | 0, _ => throw tooDeep
  | fuel + 1, sources => do
    let row ← sources.mapM fun source => do
      match source with
      | none => return (none, none)
      | some ref =>
        match ← next ref with
        | some item => return (some ref, some item)
        | none => return (none, none)
    if row.all fun (_, item) => item.isNone then return found.toList
    else zipRows pad (found.push (.tuple (row.map fun (_, item) => item.getD pad))) fuel (row.map (·.1))

def zip (given : Given) : Eval Item := do
  match given.positional with
  | [single] => if single.isNull then list [] else return single
  | several =>
    let pad := ((given.named.find? (·.1 == "pad")).map (·.2)).getD .null
    let sources ← several.mapM fun item => do
      if item.isNull then return some (← make (.cursor "list_iterator" (.items [])))
      else return some (← iterate item)
    list (← zipRows pad #[] maxSteps sources)

def callFunction (name : String) (given : Given) : Eval Item := do
  if name == "zip" then zip given
  else
    let _ ← settle ((Functions.signature name).bind given.positional given.named)
    if name != "json" then
      for item in given.positional do
        let _ ← require item
      for (_, item) in given.named do
        let _ ← require item
    ofFound (← settle (Functions.call (← get).view name given.positional given.named))

def applySingle (name : String) (item : Item) : Eval Item := do
  match name with
  | "abs" =>
    match item with
    | .undefined .. => throw (.broken .type "bad operand type for abs(): 'StrictUndefined'")
    | _ => ofValue (← settle (Value.absolute (← plain item)))
  | _ => return .int (← length item)

def applyToText (name : String) (s : String) (given : String → Option Item) : Eval Item := do
  match name with
  | "capitalize" => return .str (Text.capitalize s)
  | "lower" => return .str (Text.lower s)
  | "upper" => return .str (Text.upper s)
  | "title" => return .str (titleWords s)
  | "trim" => strip "strip" true true s (given "chars")
  | "center" => return .str (Text.center s (← whole ((given "width").getD (.int 80))) ' ')
  | "wordcount" => return .int (wordCount false s.toList)
  | "replace" =>
    let old ← text ((given "old").getD .null)
    let new ← text ((given "new").getD .null)
    let limit ← match given "count" with
      | none | some (.atom .null) => pure none
      | some item => limitOf (some item)
    return .str (String.ofList (Text.replaceChars old.toList new.toList s.toList limit))
  | "e" | "escape" | "forceescape" => return .str (escaped s)
  | _ => return .str s

def textFilters : List String :=
  ["capitalize", "lower", "upper", "title", "trim", "center", "wordcount", "replace", "e", "escape",
   "forceescape", "safe", "string"]

/-- Cuts a text off behind a length; something else is only cut off if it can be. -/
def truncate (item : Item) (length : Int) (killWords : Bool) (ending : String) (leeway : Int) :
    Eval Item := do
  match item with
  | .atom (.str s) => return .str (← settle (truncated s length killWords ending leeway))
  | _ =>
    let _ ← settle (truncated "" length killWords ending leeway)
    if (← Eval.length item) ≤ length + leeway then return item
    let cut ← slice item .null (.int (length - ending.length)) .null
    if killWords then calculate .add cut (.str ending)
    else throw (.broken .noAttribute ("'" ++ (← typeName cut) ++ "' object has no attribute 'rsplit'"))

def indent (item width : Item) (first blank : Bool) : Eval Item := do
  let indention ← match width with
    | .atom (.str s) => pure s
    | _ =>
      match width.int? with
      | some n => pure (Text.pad n.toNat ' ')
      | none => throw (Value.cannotRepeat (← plain width))
  match item with
  | .atom (.str s) => return .str (indentLines indention first blank s)
  | .undefined fault text => throw (.broken fault text)
  | .list _ => throw (.broken .noAttribute "'list' object has no attribute 'splitlines'")
  | .tuple _ | .group _ _ => calculate .add item (.str "")
  | _ =>
    throw (.broken .type ("unsupported operand type(s) for +=: '" ++ (← typeName item) ++ "' and 'str'"))

def applyNamed (name : String) (item : Item) (given : String → Option Item) : Eval Item := do
  let isSet (word : String) : Eval Bool := do
    match given word with
    | some item => truthy item
    | none => return false
  let asked (word : String) : Item := (given word).getD .null
  let pairs : Eval (List (Item × Item)) := do
    let caseSensitive ← isSet "case_sensitive"
    let parts ← settle (pathParts (asked "attribute"))
    (← items item).mapM fun part => do return (← rank caseSensitive .null parts part, part)
  match name with
  | "attr" =>
    let word ← text (asked "name")
    match ← own? item word with
    | some found => return found
    | none => absent item (.str word)
  | "batch" => stream (.batches (asked "linecount") (asked "fill_with")) item
  | "d" | "default" =>
    let other := (given "default_value").getD (.str "")
    if item.isUndefined then return other
    else if ← isSet "boolean" then return if ← truthy item then item else other
    else return item
  | "dictsort" =>
    let caseSensitive ← isSet "case_sensitive"
    sortedEntries item ((given "by").getD (.str "key")) caseSensitive ((given "reverse").getD (.bool false))
  | "filesizeformat" =>
    let x ← settle (← plain (← require item)).toReal
    return .str (← settle (sizeText (← isSet "binary") x))
  | "first" => firstItem item
  | "float" => realOr item ((given "default").getD (.atom (.float 0.0)))
  | "groupby" => do grouped item (asked "attribute") (asked "default") (← isSet "case_sensitive")
  | "int" => wholeOr item ((given "default").getD (.int 0)) ((given "base").getD (.int 10))
  | "items" => stream .pairs item
  | "join" =>
    let separator ← text ((given "d").getD (.str ""))
    let parts ← settle (pathParts (asked "attribute"))
    let texts ← (← items item).mapM fun part => do text (← follow .null parts part)
    return .str (separator.intercalate texts)
  | "last" => lastItem item
  | "list" => list (← items item)
  | "max" => extreme .greater (← pairs)
  | "min" => extreme .less (← pairs)
  | "pprint" => return .str (← settle (orderedKeys Store.maxDepth (← plain item))).shown
  | "indent" =>
    let first ← isSet "first"
    indent item ((given "width").getD (.int 4)) first (← isSet "blank")
  | "truncate" =>
    let limit := (given "length").getD (.int 255)
    let ending ← text ((given "end").getD (.str "..."))
    if !(← ask (·.compares .greaterOrSame limit (.int ending.length))) then
      throw (.broken .assertion ("expected length >= " ++ toString ending.length ++ ", got " ++ (← text limit)))
    let length ← whole limit
    let leeway ← match given "leeway" with
      | none | some (.atom .null) => pure 5
      | some item => whole item
    truncate (← require item) length (← isSet "killwords") ending leeway
  | "reverse" => reversed item
  | "round" =>
    rounded item ((given "precision").getD (.int 0)) ((given "method").getD (.str "common"))
  | "slice" => stream (.slices (asked "slices") (asked "fill_with")) item
  | "sort" =>
    let caseSensitive ← isSet "case_sensitive"
    let paths ← match asked "attribute" with
      | .atom (.str s) => (Text.splitText "," s).mapM fun path => settle (pathParts (.str path))
      | path => do pure [← settle (pathParts path)]
    let found ← items item
    let isReverse ← match given "reverse" with
      | some v => flag v
      | none => pure false
    let ranks ← found.mapM fun part => do
      return (← paths.mapM fun path => rank caseSensitive .null path part, part)
    list (← sortByRanks isReverse ranks)
  | "sum" => summed item (asked "attribute") ((given "start").getD (.int 0))
  | "tojson" => asJson item (asked "indent")
  | "unique" => stream (.distinct (asked "case_sensitive") (asked "attribute")) item
  | "urlencode" => encodedForUrl item
  | _ => throw (.broken .templateRun ("The filter " ++ Text.quoted name ++ " is not available."))

def applyOpen (name : String) (item : Item) (given : Given) : Eval Item := do
  match name with
  | "map" => stream (.map given) item
  | "select" => stream (.choose true false given) item
  | "reject" => stream (.choose false false given) item
  | "selectattr" => stream (.choose true true given) item
  | "rejectattr" => stream (.choose false true given) item
  | _ =>
    if !given.positional.isEmpty && !given.named.isEmpty then
      throw (argumentFault "can't handle positional and keyword arguments at the same time")
    let s ← text item
    if given.named.isEmpty then percent s (.tuple given.positional)
    else percent s (← mapping (given.named.map fun (word, v) => (.str word, v)))

def applyFilter (name : String) (item : Item) (given : Given) : Eval Item := do
  let all : Given := ⟨item :: given.positional, given.named⟩
  if Functions.names.contains name then callFunction name all
  else if openFilters.contains name then applyOpen name item given
  else
    match singleFilters.find? (·.1 == name), filters.find? (·.1 == name) with
    | some (_, title), _ => applySingle name (← settle (all.single title))
    | none, some (_, filter) =>
      let hidden := List.replicate filter.hidden Item.null
      let found ← settle (filter.signature.bind (hidden ++ all.positional) given.named)
      let names := filter.signature.required ++ filter.signature.optional
      let bound := ((names.zip found).drop filter.hidden)
      let item := ((bound.head?.map (·.2)).join).getD .null
      let asked (word : String) : Option Item := ((bound.find? (·.1 == word)).map (·.2)).join
      if textFilters.contains name then applyToText name (← text item) asked
      else applyNamed name item asked
    | none, none => throw (noFilter name)

def applyByName (name item : Item) (given : Given) : Eval Item := do
  match ← key name with
  | .str word => applyFilter word item given
  | v => throw (.broken .templateRun ("No filter named " ++ v.shown ++ "."))

def testByName (name item : Item) (given : Given) : Eval Bool := do
  match ← key name with
  | .str word => test filterNames word item given
  | v => throw (.broken .templateRun ("No test named " ++ v.shown ++ "."))

end Eval

end Orchestration.Template
