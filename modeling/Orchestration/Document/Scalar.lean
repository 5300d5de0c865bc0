import Orchestration.Document.Tree
import Orchestration.Number.Reading
import Orchestration.Text.Pattern
import Orchestration.Value.Entries

/-!
What the scalars of a document stand for.

A plain scalar that looks like a number, a truth value, a date or nothing is one; every other scalar
is text. A tag says outright what a scalar is.
-/

namespace Orchestration.Document

open Text (Pattern Cursor)

namespace Scalar

def oneOfWords (words : List String) : Pattern := .oneOf (words.map Pattern.literal)

def entire (p : Pattern) : Pattern := .all [.atStart, p, .atEnd]

def digit : Pattern := .char Char.isDigit

def digits : Pattern := .zeroOrMore (.char fun c => c.isDigit || c == '_')

def sign : Pattern := .optional (.char fun c => c == '+' || c == '-')

def exponent : Pattern :=
  .optional (.all [.char fun c => c == 'e' || c == 'E', .char fun c => c == '+' || c == '-', .oneOrMore digit])

/-- Further places of a number in base sixty. -/
def sixties : Pattern :=
  .oneOrMore (.all [.literal ":", .optional (.char fun c => '0' ≤ c && c ≤ '5'), digit])

def truthWords : List String :=
  ["yes", "Yes", "YES", "no", "No", "NO", "true", "True", "TRUE", "false", "False", "FALSE", "on", "On",
   "ON", "off", "Off", "OFF"]

def float : Pattern := entire <| .oneOf
  [.all [sign, digit, digits, .literal ".", digits, exponent],
   .all [.literal ".", digit, digits, exponent],
   .all [sign, digit, digits, sixties, .literal ".", digits],
   .all [sign, .literal ".", oneOfWords ["inf", "Inf", "INF"]],
   .all [.literal ".", oneOfWords ["nan", "NaN", "NAN"]]]

def whole : Pattern := entire <| .oneOf
  [.all [sign, .literal "0b", .oneOrMore (.char fun c => c == '0' || c == '1' || c == '_')],
   .all [sign, .literal "0", .oneOrMore (.char fun c => ('0' ≤ c && c ≤ '7') || c == '_')],
   .all [sign, .either (.literal "0") (.seq (.char fun c => '1' ≤ c && c ≤ '9') digits)],
   .all [sign, .literal "0x", .oneOrMore (.char fun c => (Text.hexDigit? c).isSome || c == '_')],
   .all [sign, .char fun c => '1' ≤ c && c ≤ '9', digits, sixties]]

def blanks : Pattern := .oneOrMore (.char fun c => c == ' ' || c == '\t')

def upToTwo (n : Nat) : Pattern := .group n (.seq digit (.optional digit))

/-- A date, or a date and a time: year, month, day, hour, minute, second, fraction, zone. -/
def timestamp : Pattern := entire <|
  .all [.group 1 (.times 4 digit), .literal "-", upToTwo 2, .literal "-", upToTwo 3,
    .optional (.all [.oneOf [.literal "T", .literal "t", blanks], upToTwo 4, .literal ":",
      .group 5 (.times 2 digit), .literal ":", .group 6 (.times 2 digit),
      .optional (.all [.literal ".", .group 7 (.zeroOrMore digit)]),
      .optional (.all [.zeroOrMore (.char fun c => c == ' ' || c == '\t'),
        .oneOf [.group 8 (.literal "Z"),
          .all [.group 9 (.char fun c => c == '+' || c == '-'), upToTwo 10,
            .optional (.all [.literal ":", .group 11 (.times 2 digit)])]]])])]

def dateOnly : Pattern := entire <|
  .all [.times 4 digit, .literal "-", .times 2 digit, .literal "-", .times 2 digit]

/-- Whether a text is written like a date or a moment. A date alone has two digits everywhere. -/
def isTimestamp (text : String) : Bool :=
  dateOnly.matchesStart text ||
    (timestamp.matchesStart text && text.toList.contains ':')

def isNull (text : String) : Bool := ["~", "null", "Null", "NULL", ""].contains text

def implicitTag (text : String) : String :=
  if truthWords.contains text then "bool"
  else if float.matchesStart text then "float"
  else if whole.matchesStart text then "int"
  else if text == "<<" then "merge"
  else if isNull text then "null"
  else if isTimestamp text then "timestamp"
  else if text == "=" then "value"
  else "str"

def wrong {α : Type} : Except Failure α := .error (.construction "a scalar cannot be read")

def splitSign (text : String) : Bool × String :=
  match text.toList with
  | '-' :: rest => (true, String.ofList rest)
  | '+' :: rest => (false, String.ofList rest)
  | _ => (false, text)

def inBase (base : Nat) (cs : List Char) : Option Nat :=
  if cs.isEmpty then none
  else cs.foldl (fun n c => do
    let value ← n
    let d ← Text.hexDigit? c
    if d < base then some (value * base + d) else none) (some 0)

def sixty (parts : List Nat) : Nat := parts.foldl (fun n d => n * 60 + d) 0

def readWhole (text : String) : Except Failure Int :=
  let (negative, digits) := splitSign (Text.replace text "_" "")
  let found : Option Nat := match digits.toList with
    | '0' :: 'b' :: rest => inBase 2 rest
    | '0' :: 'x' :: rest => inBase 16 rest
    | ['0'] => some 0
    | '0' :: rest => inBase 8 rest
    | cs =>
      if cs.contains ':' then
        ((Text.splitText ":" digits).mapM fun part => inBase 10 part.toList).map sixty
      else inBase 10 cs
  match found with
  | some n => .ok (if negative then -(n : Int) else n)
  | none => wrong

def readFloat (text : String) : Except Failure Float :=
  let (negative, digits) := splitSign (Text.replace text "_" "").toLower
  let signed (x : Float) : Float := if negative then -x else x
  if digits == ".inf" then .ok (signed (1.0 / 0.0))
  else if digits == ".nan" then .ok (0.0 / 0.0)
  else if digits.toList.contains ':' then
    match (Text.splitText ":" digits).mapM Number.readFloat? with
    | some parts =>
      let (total, _) :=
        parts.reverse.foldl (fun (total, base) d => (total + d * base, base * 60.0)) (0.0, 1.0)
      .ok (signed total)
    | none => wrong
  else
    match Number.readFloat? digits with
    | some x => .ok (signed x)
    | none => wrong

def partOf (found : Cursor) (n : Nat) : Nat := ((found.group n).toNat?).getD 0

def readMoment (text : String) : Except Failure Value :=
  match timestamp.find? text with
  | none => wrong
  | some found =>
    let date : Calendar.Date := ⟨partOf found 1, partOf found 2, partOf found 3⟩
    if !date.isValid then wrong
    else if (found.group 4).isEmpty then .ok (.date date)
    else
      let micro :=
        ((String.ofList (((found.group 7).toList ++ List.replicate 6 '0').take 6)).toNat?).getD 0
      let shift : Int := partOf found 10 * 3600 + partOf found 11 * 60
      let offset : Option Int :=
        if !(found.group 8).isEmpty then some 0
        else if (found.group 9).isEmpty then none
        else some (if found.group 9 == "-" then -shift else shift)
      let m : Calendar.Moment :=
        ⟨date, partOf found 4, partOf found 5, partOf found 6, micro, offset⟩
      if m.isValid then .ok (.moment m) else wrong

def readTruth (text : String) : Except Failure Bool :=
  match text.toLower with
  | "yes" | "true" | "on" => .ok true
  | "no" | "false" | "off" => .ok false
  | _ => wrong

def value (tag text : String) : Except Failure Value :=
  match tag with
  | "str" => .ok (.str text)
  | "null" => .ok .null
  | "bool" => (readTruth text).map .bool
  | "int" => (readWhole text).map .int
  | "float" => (readFloat text).map .float
  | "timestamp" => readMoment text
  | "binary" => .ok (.object "bytes")
  | _ => wrong

end Scalar

end Orchestration.Document
