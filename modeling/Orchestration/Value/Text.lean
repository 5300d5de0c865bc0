import Orchestration.Text.Quoted
import Orchestration.Value.Entries

/-!
The text of a value.

`shown` is the form in which a value stands inside another one, with text in quotes; `text` is the
form in which it stands in a sentence, where text is written as it is.
-/

namespace Orchestration.Value

def dateShown (d : Calendar.Date) : String :=
  "datetime.date(" ++ toString d.year ++ ", " ++ toString d.month ++ ", " ++ toString d.day ++ ")"

def zoneShown : Option Int → String
  | none => ""
  | some 0 => ", tzinfo=datetime.timezone.utc"
  | some seconds =>
    let (days, rest) := if seconds < 0 then (-1, seconds + 86400) else ((0 : Int), seconds)
    let inner := (if days == 0 then "" else "days=-1, ") ++ "seconds=" ++ toString rest
    ", tzinfo=datetime.timezone(datetime.timedelta(" ++ inner ++ "))"

def momentShown (m : Calendar.Moment) : String :=
  let tail := if m.micro != 0 then ", " ++ toString m.second ++ ", " ++ toString m.micro
    else if m.second != 0 then ", " ++ toString m.second else ""
  "datetime.datetime(" ++ toString m.date.year ++ ", " ++ toString m.date.month ++ ", " ++
    toString m.date.day ++ ", " ++ toString m.hour ++ ", " ++ toString m.minute ++ tail ++
    zoneShown m.offset ++ ")"

mutual

def shown : Value → String
  | .null => "None"
  | .bool b => if b then "True" else "False"
  | .int n => toString n
  | .float x => Number.floatText x
  | .str s => Text.quoted s
  | .date d => dateShown d
  | .moment m => momentShown m
  | .list items => "[" ++ ", ".intercalate (shownItems items) ++ "]"
  | .tuple [x] => "(" ++ shown x ++ ",)"
  | .tuple items => "(" ++ ", ".intercalate (shownItems items) ++ ")"
  | .set [] => "set()"
  | .set items => "\x7b" ++ ", ".intercalate (shownItems items) ++ "\x7d"
  | .map entries => "\x7b" ++ ", ".intercalate (shownEntries entries) ++ "\x7d"
  | .named kind => "<class '" ++ kind ++ "'>"
  | .object type => "<" ++ type ++ " object>"

def shownItems : List Value → List String
  | [] => []
  | v :: rest => shown v :: shownItems rest

def shownEntries : List (Value × Value) → List String
  | [] => []
  | (k, v) :: rest => (shown k ++ ": " ++ shown v) :: shownEntries rest

end

def text : Value → String
  | .str s => s
  | .date d => d.text
  | .moment m => m.textWith " "
  | v => shown v

def asText (force : Bool) (v : Value) : Value := if force then .str v.text else v

end Orchestration.Value
