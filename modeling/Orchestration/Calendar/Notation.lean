import Orchestration.Calendar.Reading
import Orchestration.Error
import Orchestration.Text.Pattern

/-!
Moments in text: how they are recognised, read and written.
-/

namespace Orchestration.Calendar

open Text (Pattern)

namespace Notation

def dateAndTime : Pattern :=
  .all [.times 4 .digit, .literal "-", .times 2 .digit, .literal "-", .times 2 .digit,
    .oneOf [.blank, .literal "T"], .times 2 .digit, .literal ":", .times 2 .digit, .literal ":",
    .times 2 .digit]

def fraction : Pattern := .seq (.literal ".") (.between 3 3 .digit)

def zone : Pattern :=
  .oneOf [.literal "Z", .seq (.literal "+") (.times 2 .digit), .seq (.literal "+") (.times 4 .digit),
    .all [.literal "+", .times 2 .digit, .literal ":", .times 2 .digit]]

/-- A moment without a zone has to have a fraction. -/
def withoutZone : Pattern := .all [.atStart, dateAndTime, fraction, .atEnd]

def withZone : Pattern := .all [.atStart, dateAndTime, .optional fraction, zone, .atEnd]

def isMoment (s : String) : Bool := withoutZone.matchesStart s || withZone.matchesStart s

def readNamed (s : String) : Except Error Reading.Found :=
  match Reading.read s with
  | .ok found => .ok found
  | .error .unreadable => .error (.broken .dateText ("Unknown string format: " ++ s))
  | .error .tooLarge => .error (.broken .overflow "Python int too large to convert to C int")

def read (s : String) : Except Error Moment := do return (← readNamed s).moment

def twoDigits (n : Nat) : String := Number.padLeft 2 (toString n)

/-- Writes a moment with or without its fraction, and with its offset or the name of its zone. -/
def write (withFraction withOffset : Bool) (zone : Option String) (m : Moment) :
    Except Error String := do
  let time := toString m.date.year ++ "-" ++ twoDigits m.date.month ++ "-" ++ twoDigits m.date.day ++
    "T" ++ twoDigits m.hour ++ ":" ++ twoDigits m.minute ++ ":" ++ twoDigits m.second
  let parts := if withFraction then "." ++ Number.padLeft 6 (toString m.micro) else ""
  let offset := m.offset.getD 0
  if withOffset then
    if offset.natAbs ≥ 86400 then
      throw (.broken .value ("offset must be a timedelta strictly between -timedelta(hours=24) and " ++
        "timedelta(hours=24)."))
    return time ++ parts ++ Moment.offsetText offset
  else if offset == 0 then return time ++ parts ++ "Z"
  else
    match zone with
    | some name => return time ++ parts ++ name
    | none => throw (.broken .type "can only concatenate str (not \"NoneType\") to str")

def format (v : Value) (withFraction withOffset : Bool) : Except Error String :=
  match v with
  | .str s => do
    let found ← readNamed s
    write withFraction withOffset found.zone found.moment
  | .moment m => write withFraction withOffset none m
  | .date d =>
    if withOffset then write withFraction true none ⟨d, 0, 0, 0, 0, none⟩
    else .error (.broken .noAttribute "'datetime.date' object has no attribute 'tzinfo'")
  | _ => .error (.broken .noAttribute ("'" ++ v.typeName ++ "' object has no attribute 'strftime'"))

/-- Whether a value is a moment, or a text that names one. -/
def names : Value → Bool
  | .moment _ => true
  | .str s => isMoment s
  | _ => false

end Notation

end Orchestration.Calendar
