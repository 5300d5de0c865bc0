import Orchestration.Template.Format
import Orchestration.Text.Search
import Orchestration.Text.Shape
import Orchestration.Text.Word

/-!
The methods of text.
-/

namespace Orchestration.Template.Eval

def withNothing (name : String) (given : Given) (answer : Item) : Eval Item := do
  settle (given.nothing ("str." ++ name))
  return answer

def limitOf (item : Option Item) : Eval (Option Nat) := do
  match item with
  | none => return none
  | some item =>
    let n ← whole item
    return if n < 0 then none else some n.toNat

def strip (name : String) (fromStart fromEnd : Bool) (s : String) (cutset : Option Item) :
    Eval Item := do
  let cut ← match cutset with
    | none | some (.atom .null) => pure Text.isBlank
    | some (.atom (.str set)) => pure fun c => set.toList.contains c
    | some _ => throw (Given.wrong (name ++ " arg must be None or str"))
  let cs := if fromStart then Text.trimStartOf cut s.toList else s.toList
  return .str (String.ofList (if fromEnd then Text.trimEndOf cut cs else cs))

def emptySeparator : Error := .broken .value "empty separator"

/-- The pieces of a text between separators, counted from its start or from its end. -/
def split (fromEnd : Bool) (s : String) (separator : Option Item) (limit : Option Nat) :
    Eval Item := do
  match separator with
  | none | some (.atom .null) =>
    if fromEnd then
      texts ((Text.splitBlankAtMost (s.length + 1) (limit.getD s.length) s.toList.reverse).reverse.map
        fun part => String.ofList part.reverse)
    else texts ((Text.splitBlankAtMost (s.length + 1) (limit.getD s.length) s.toList).map String.ofList)
  | some (.atom (.str "")) => throw emptySeparator
  | some (.atom (.str word)) =>
    if fromEnd then texts (Text.splitFromEnd word s limit)
    else texts ((Text.splitOn word.toList s.toList limit).map String.ofList)
  | some item => throw (Given.wrong ("must be str or None, not " ++ (← typeName item)))

/-- Whether a part of a text begins or ends with one of some words. -/
def affixed (name : String) (test : List Char → List Char → Int → Int → Bool) (s : String)
    (arguments : List Item) : Eval Item := do
  let (start, stop) ← bounds arguments
  match arguments with
  | .atom (.str word) :: _ => return .bool (test s.toList word.toList start stop)
  | .tuple words :: _ =>
    let found ← words.anyM fun word => do
      match word with
      | .atom (.str word) => return test s.toList word.toList start stop
      | other => throw (Given.wrong ("tuple for " ++ name ++ " must only contain str, not " ++
          (← typeName other)))
    return .bool found
  | item :: _ =>
    throw (Given.wrong (name ++ " first arg must be str or a tuple of str, not " ++ (← typeName item)))
  | [] => return .bool false

def place? (fromEnd : Bool) (s : String) (arguments : List Item) : Eval (Option Nat) := do
  let (start, stop) ← bounds arguments
  let word ← textArgument (arguments.headD .null)
  return if fromEnd then Text.findLastBetween? s.toList word.toList start stop
    else Text.findBetween? s.toList word.toList start stop

def joined (separator : String) (item : Item) : Eval Item := do
  let parts ← match item with
    | .cursor _ | .undefined .. => items item
    | _ =>
      match (← get).parts? item with
      | some parts => pure parts
      | none => throw (Given.wrong "can only join an iterable")
  let texts ← parts.zipIdx.mapM fun (part, i) => do
    match part.text? with
    | some s => return s
    | none => throw (Given.wrong ("sequence item " ++ toString i ++ ": expected str instance, " ++
        (← typeName part) ++ " found"))
  return .str (separator.intercalate texts)

def partition (s : String) (item : Item) : Eval Item := do
  let word ← textArgument item
  if word.isEmpty then throw emptySeparator
  match Text.cutFirst? word.toList s.toList with
  | some (before, after) =>
    return .tuple (Item.texts [String.ofList before, word, String.ofList after])
  | none => return .tuple (Item.texts [s, "", ""])

def partitionBack (s : String) (item : Item) : Eval Item := do
  let word ← textArgument item
  if word.isEmpty then throw emptySeparator
  match Text.cutFirst? word.toList.reverse s.toList.reverse with
  | some (after, before) =>
    return .tuple (Item.texts [String.ofList before.reverse, word, String.ofList after.reverse])
  | none => return .tuple (Item.texts ["", "", s])

def fillChar (item : Option Item) : Eval Char := do
  match item with
  | none => return ' '
  | some (.atom (.str s)) =>
    match s.toList with
    | [c] => return c
    | _ => throw (Given.wrong "The fill character must be exactly one character long")
  | some item =>
    throw (Given.wrong ("The fill character must be a unicode character, not " ++ (← typeName item)))

def padded (name : String) (pad : String → Int → Char → String) (s : String) (given : Given) :
    Eval Item := do
  let arguments ← settle (given.between ("str." ++ name) name 1 2)
  let width ← whole (arguments.headD .null)
  let fill ← fillChar arguments[1]?
  return .str (pad s width fill)

def expandTabs (size : Int) (column : Nat) : List Char → List Char
  | [] => []
  | c :: rest =>
    if c == '\t' then
      let width := if size > 0 then size.toNat - column % size.toNat else 0
      List.replicate width ' ' ++ expandTabs size (column + width) rest
    else c :: expandTabs size (if c == '\n' || c == '\r' then 0 else column + 1) rest

def replaced (s : String) (given : Given) : Eval Item := do
  let arguments ← settle (given.between "str.replace" "replace" 2 3)
  let old ← mustBeText "replace() argument 1 " (arguments.headD .null)
  let new ← mustBeText "replace() argument 2 " ((arguments[1]?).getD .null)
  let limit ← limitOf arguments[2]?
  return .str (String.ofList (Text.replaceChars old.toList new.toList s.toList limit))

inductive Coding where
  | utf8
  | ascii
  | latin

namespace Coding

def ofName? (name : String) : Option Coding :=
  let word :=
    String.ofList ((Text.lower name).toList.map fun c => if c == '-' || c == ' ' then '_' else c)
  if ["utf_8", "utf8", "u8", "utf", "utf8_ucs2", "utf8_ucs4", "cp65001"].contains word then
    some .utf8
  else if ["ascii", "us_ascii", "646"].contains word then some .ascii
  else if ["latin_1", "latin1", "latin", "iso_8859_1", "iso8859_1", "iso8859", "l1", "8859", "cp819"].contains word then
    some .latin
  else none

def size : Coding → Nat
  | .utf8 => 0x110000
  | .ascii => 128
  | .latin => 256

def title : Coding → String
  | .utf8 => "utf-8"
  | .ascii => "ascii"
  | .latin => "latin-1"

def bytesOf (coding : Coding) (c : Char) : List UInt8 :=
  match coding with
  | .utf8 => (String.singleton c).toUTF8.toList
  | _ => [c.toNat.toUInt8]

/-- The text that bytes stand for; otherwise where it goes wrong. -/
def read (coding : Coding) (bytes : List UInt8) : Except Nat String :=
  match coding with
  | .utf8 =>
    match String.fromUTF8? ⟨bytes.toArray⟩ with
    | some s => .ok s
    | none => .error 0
  | _ =>
    match bytes.findIdx? fun b => b.toNat ≥ coding.size with
    | some i => .error i
    | none => .ok (String.ofList (bytes.map fun b => Char.ofNat b.toNat))

end Coding

/-- What takes the place of a character that a coding does not know. -/
def stoppedBy (errors : String) (c : Char) : Option String :=
  match errors with
  | "ignore" => some ""
  | "replace" => some "?"
  | "xmlcharrefreplace" => some ("&#" ++ toString c.toNat ++ ";")
  | "backslashreplace" => some (String.ofList (Text.escapedCode c))
  | _ => none

/-- The coding that a method is asked for, and what is to be done with what it does not know. -/
def codingOf (method : String) (given : Given) : Eval (Coding × String) := do
  let arguments ← settle (given.keyed method ["encoding", "errors"] 0)
  let textOf (i : Nat) (word other : String) : Eval String := do
    match (arguments[i]?).join with
    | none => return other
    | some item => mustBeText (method ++ "() argument '" ++ word ++ "' ") item
  let name ← textOf 0 "encoding" "utf-8"
  let errors ← textOf 1 "errors" "strict"
  match Coding.ofName? name with
  | none => throw (.broken .lookup ("unknown encoding: " ++ name))
  | some coding => return (coding, errors)

def encoded (s : String) (given : Given) : Eval Item := do
  let (coding, errors) ← codingOf "encode" given
  let unknown (c : Char) : Bool := c.toNat ≥ coding.size
  match s.toList.zipIdx.find? fun (c, _) => unknown c with
  | none => return .object (← make (.bytes (s.toList.flatMap coding.bytesOf)))
  | some (c, i) =>
    if errors == "strict" then
      let run := (s.toList.drop i).takeWhile unknown
      let head := if run.length == 1 then
          "character '" ++ String.ofList (Text.escapedCode c) ++ "' in position " ++ toString i
        else "characters in position " ++ toString i ++ "-" ++ toString (i + run.length - 1)
      throw (.broken .encoding ("'" ++ coding.title ++ "' codec can't encode " ++ head ++
        ": ordinal not in range(" ++ toString coding.size ++ ")"))
    else if (stoppedBy errors c).isNone then
      throw (.broken .lookup ("unknown error handler name " ++ Text.quoted errors))
    else
      let known :=
        s.toList.flatMap fun c => if unknown c then ((stoppedBy errors c).getD "").toList else [c]
      return .object (← make (.bytes (known.flatMap coding.bytesOf)))

def decoded (bytes : List UInt8) (given : Given) : Eval Item := do
  let (coding, _) ← codingOf "decode" given
  match coding.read bytes with
  | .ok s => return .str s
  | .error i =>
    let byte := ((bytes[i]?).getD 0).toNat
    throw (.broken .decoding ("'" ++ coding.title ++ "' codec can't decode byte 0x" ++
      String.ofList (Nat.toDigits 16 byte) ++ " in position " ++ toString i ++ ": ordinal not in range(" ++
      toString coding.size ++ ")"))

/-- What takes the place of each character, by the number of the character. -/
def substitutes (given : Given) : Eval Item := do
  match ← settle (given.between "str.maketrans" "maketrans" 1 3) with
  | [.map ref] =>
    let entries ← ((← get).entriesAt ref).mapM fun (k, v) => do
      match k with
      | .int _ | .bool _ => return (k, v)
      | .str s =>
        match s.toList with
        | [c] => return (.int c.toNat, v)
        | _ => throw (.broken .value "string keys in translate table must be of length 1")
      | _ => throw (Given.wrong "keys in translate table must be strings or integers")
    mapping entries
  | [_] => throw (Given.wrong "if you give only one argument to maketrans it must be a dict")
  | first :: second :: rest =>
    let new ← mustBeText "maketrans() argument 2 " second
    let dropped ← match rest with
      | item :: _ => mustBeText "maketrans() argument 3 " item
      | [] => pure ""
    match first.text? with
    | none =>
      throw (Given.wrong "first maketrans argument must be a string if there is a second argument")
    | some old =>
      if old.length != new.length then
        throw (.broken .value "the first two maketrans arguments must have equal length")
      let pairs := old.toList.zip new.toList
      let entries :=
        pairs.foldl (fun es (c, d) => Store.withEntry es (.int c.toNat) (.int d.toNat)) []
      mapping (dropped.toList.foldl (fun es c => Store.withEntry es (.int c.toNat) .null) entries)
  | [] => return .null

def substituted (table : Item) (c : Char) : Eval String := do
  let found ← match table with
    | .map ref => pure (Store.find? ((← get).entriesAt ref) (.int c.toNat))
    | .list _ | .tuple _ | .atom (.str _) | .range .. | .group _ _ => part? table (.int c.toNat)
    | .undefined fault text => throw (.broken fault text)
    | _ => throw (Given.wrong ("'" ++ (← typeName table) ++ "' object is not subscriptable"))
  match found with
  | none => return String.singleton c
  | some item =>
    match item with
    | .atom .null => return ""
    | .atom (.str s) => return s
    | _ =>
      match item.int? with
      | some n =>
        if n < 0 || n > 0x10ffff then
          throw (.broken .value "character mapping must be in range(0x110000)")
        return String.singleton (Char.ofNat n.toNat)
      | none => throw (Given.wrong "character mapping must return integer, None or str")

def isTextTest? (name : String) : Option (String → Bool) :=
  match name with
  | "isalnum" => some (Text.isAll fun c => Text.isLetter c || Text.isNumeral c)
  | "isalpha" => some (Text.isAll Text.isLetter)
  | "isascii" => some fun s => s.toList.all (·.toNat < 128)
  | "isdecimal" => some (Text.isAll Text.isDigit)
  | "isdigit" => some (Text.isAll Text.isDigitSign)
  | "isidentifier" => some Text.isIdentifier
  | "islower" => some Text.isLower
  | "isnumeric" => some (Text.isAll Text.isNumeral)
  | "isprintable" => some fun s => s.toList.all Text.isPrintable
  | "isspace" => some (Text.isAll Text.isBlank)
  | "istitle" => some Text.isTitle
  | "isupper" => some Text.isUpper
  | _ => none

def inCase? (name : String) : Option (String → String) :=
  match name with
  | "capitalize" => some Text.capitalize
  | "casefold" => some Text.fold
  | "lower" => some Text.lower
  | "swapcase" => some Text.swapCase
  | "title" => some Text.title
  | "upper" => some Text.upper
  | _ => none

def callSearch (s name : String) (given : Given) : Eval Item := do
  let title := "str." ++ name
  match name with
  | "split" | "rsplit" =>
    let arguments ← settle (given.keyed name ["sep", "maxsplit"] 0)
    let limit ← limitOf (arguments[1]?).join
    split (name == "rsplit") s (arguments[0]?).join limit
  | "splitlines" =>
    let arguments ← settle (given.keyed name ["keepends"] 0)
    let keepsEnds ← match arguments.headD none with
      | some item => flag item
      | none => pure false
    texts (Text.lines keepsEnds [] s.toList)
  | "partition" => partition s (← settle (given.single title))
  | "rpartition" => partitionBack s (← settle (given.single title))
  | "startswith" => affixed name Text.startsBetween s (← settle (given.bounded name))
  | "endswith" => affixed name Text.endsBetween s (← settle (given.bounded name))
  | "find" | "rfind" =>
    let found ← place? (name == "rfind") s (← settle (given.bounded name))
    return .int ((found.map Int.ofNat).getD (-1))
  | "index" | "rindex" =>
    match ← place? (name == "rindex") s (← settle (given.bounded name)) with
    | some n => return .int n
    | none => throw (.broken .value "substring not found")
  | _ =>
    let arguments ← settle (given.bounded name)
    let (start, stop) ← bounds arguments
    let word ← textArgument (arguments.headD .null)
    return .int (Text.countBetween s.toList word.toList start stop)

def callShape (s name : String) (given : Given) : Eval Item := do
  let title := "str." ++ name
  match name with
  | "strip" | "lstrip" | "rstrip" =>
    let arguments ← settle (given.between title name 0 1)
    strip name (name != "rstrip") (name != "lstrip") s arguments[0]?
  | "join" => joined s (← settle (given.single title))
  | "replace" => replaced s given
  | "zfill" => return .str (Text.zeroFill s (← whole (← settle (given.single title))))
  | "ljust" => padded name Text.padEnd s given
  | "rjust" => padded name Text.padStart s given
  | "center" => padded name Text.center s given
  | "removeprefix" =>
    let word ← mustBeText (name ++ "() argument ") (← settle (given.single title))
    return .str (((Text.afterHead? word.toList s.toList).map String.ofList).getD s)
  | "removesuffix" =>
    let word ← mustBeText (name ++ "() argument ") (← settle (given.single title))
    return .str (((Text.afterHead? word.toList.reverse s.toList.reverse).map
      fun rest => String.ofList rest.reverse).getD s)
  | "expandtabs" =>
    let arguments ← settle (given.keyed name ["tabsize"] 0)
    let size ← match arguments.headD none with
      | some item => smallWhole item
      | none => pure 8
    return .str (String.ofList (expandTabs size 0 s.toList))
  | "translate" =>
    let table ← settle (given.single title)
    return .str (String.join (← s.toList.mapM (substituted table)))
  | "maketrans" => substitutes given
  | "encode" => encoded s given
  | "format" => format s given
  | _ => formatMap s given

def callOnText (s name : String) (given : Given) : Eval Item := do
  match isTextTest? name, inCase? name with
  | some test, _ => withNothing name given (.bool (test s))
  | none, some change => withNothing name given (.str (change s))
  | none, none =>
    if ["split", "rsplit", "splitlines", "partition", "rpartition", "startswith", "endswith", "find", "rfind",
        "index", "rindex", "count"].contains name then callSearch s name given
    else callShape s name given

end Orchestration.Template.Eval
