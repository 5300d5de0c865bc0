import Orchestration.Number.Shortest

/-!
Days and moments of the calendar.
-/

namespace Orchestration.Calendar

structure Date where
  year : Nat
  month : Nat
  day : Nat
  deriving DecidableEq, Repr

/-- A time of day on a date. The offset from universal time is in seconds, and absent when the
moment names no zone. -/
structure Moment where
  date : Date
  hour : Nat
  minute : Nat
  second : Nat
  micro : Nat
  offset : Option Int
  deriving DecidableEq, Repr

def isLeap (year : Nat) : Bool := year % 4 == 0 && (year % 100 != 0 || year % 400 == 0)

def daysInMonth (year month : Nat) : Nat :=
  if month == 2 then (if isLeap year then 29 else 28)
  else if [4, 6, 9, 11].contains month then 30 else 31

namespace Date

def isValid (d : Date) : Bool :=
  1 ≤ d.year && d.year ≤ 9999 && 1 ≤ d.month && d.month ≤ 12 &&
    1 ≤ d.day && d.day ≤ daysInMonth d.year d.month

def text (d : Date) : String :=
  Number.padLeft 4 (toString d.year) ++ "-" ++ Number.padLeft 2 (toString d.month) ++ "-" ++
    Number.padLeft 2 (toString d.day)

/-- Days since the first of January of year one. -/
def ordinal (d : Date) : Nat :=
  let y := d.year - 1
  let before := 365 * y + y / 4 - y / 100 + y / 400
  let months := (List.range (d.month - 1)).foldl (fun n m => n + daysInMonth d.year (m + 1)) 0
  before + months + (d.day - 1)

end Date

namespace Moment

def isValid (m : Moment) : Bool :=
  m.date.isValid && m.hour < 24 && m.minute < 60 && m.second < 60 && m.micro < 1000000

def offsetText (seconds : Int) : String :=
  let size := seconds.natAbs
  let base := (if seconds < 0 then "-" else "+") ++ Number.padLeft 2 (toString (size / 3600)) ++ ":" ++
    Number.padLeft 2 (toString (size / 60 % 60))
  if size % 60 == 0 then base else base ++ ":" ++ Number.padLeft 2 (toString (size % 60))

def timeText (m : Moment) : String :=
  Number.padLeft 2 (toString m.hour) ++ ":" ++ Number.padLeft 2 (toString m.minute) ++ ":" ++
    Number.padLeft 2 (toString m.second) ++
    (if m.micro == 0 then "" else "." ++ Number.padLeft 6 (toString m.micro))

/-- Date and time with `separator` between them; parts of a second are written only if there are
any. -/
def textWith (separator : String) (m : Moment) : String :=
  m.date.text ++ separator ++ m.timeText ++
    (match m.offset with
     | none => ""
     | some seconds => offsetText seconds)

/-- Seconds since the first of January of year one, shifted to universal time. -/
def seconds (m : Moment) : Int :=
  (m.date.ordinal : Int) * 86400 + m.hour * 3600 + m.minute * 60 + m.second - m.offset.getD 0

end Moment

end Orchestration.Calendar
