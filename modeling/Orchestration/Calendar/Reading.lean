import Orchestration.Calendar.Basic
import Orchestration.Number.Reading
import Orchestration.Text.Case
import Orchestration.Text.Class

/-!
Reading moments in many notations.

A text is cut into words, numbers and signs. Numbers that do not say what they are become year,
month and day by their size and their order; what stands behind a colon or before a letter such as
`h` belongs to the time of day. A text that leaves out part of the date is completed by a fixed one.
-/

namespace Orchestration.Calendar.Reading

/-! ### Words, numbers and signs -/

inductive Run where
  | nothing
  | word
  | number
  | dottedWord
  | dottedNumber
  deriving DecidableEq

def cutAtDots (piece : List Char) : List Char → List String
  | [] => [String.ofList piece.reverse]
  | c :: rest =>
    if c == '.' || c == ',' then
      String.ofList piece.reverse :: String.singleton c :: cutAtDots [] rest
    else cutAtDots (c :: piece) rest

/-- The tokens of a run of characters, which are given backwards. -/
def tokensOf (run : Run) (hasLetters : Bool) (backwards : List Char) : List String :=
  let chars := backwards.reverse
  let dots := (chars.filter (· == '.')).length
  let endsInDot := backwards.head? == some '.' || backwards.head? == some ','
  match run with
  | .nothing => []
  | .word | .number => [String.ofList chars]
  | .dottedWord | .dottedNumber =>
    if hasLetters || dots > 1 || endsInDot then (cutAtDots [] chars).filter (!·.isEmpty)
    else if run == .dottedNumber && dots == 0 then
      [String.ofList (chars.map fun c => if c == ',' then '.' else c)]
    else [String.ofList chars]

/-- The run that goes on with a character; `none` if it ends before it. -/
def next? (run : Run) (backwards : List Char) (c : Char) : Option Run :=
  let isBehindDot := backwards.head? == some '.'
  match run with
  | .nothing => none
  | .word => if Text.isLetter c then some .word else if c == '.' then some .dottedWord else none
  | .number =>
    if Text.isDigitSign c then some .number
    else if c == '.' || (c == ',' && backwards.length ≥ 2) then some .dottedNumber
    else none
  | .dottedWord =>
    if c == '.' || Text.isLetter c then some .dottedWord
    else if Text.isDigitSign c && isBehindDot then some .dottedNumber
    else none
  | .dottedNumber =>
    if c == '.' || Text.isDigitSign c then some .dottedNumber
    else if Text.isLetter c && isBehindDot then some .dottedWord
    else none

def tokensFrom (run : Run) (hasLetters : Bool) (backwards : List Char) : List Char → List String
  | [] => tokensOf run hasLetters backwards
  | c :: rest =>
    match next? run backwards c with
    | some run' =>
      tokensFrom run' (hasLetters || run == .word || run == .dottedWord) (c :: backwards) rest
    | none =>
      let hasLetters := hasLetters || run == .word || run == .dottedWord
      tokensOf run hasLetters backwards ++
        (if Text.isLetter c then tokensFrom .word false [c] rest
        else if Text.isDigitSign c then tokensFrom .number false [c] rest
        else if Text.isBlank c then " " :: tokensFrom .nothing false [] rest
        else String.singleton c :: tokensFrom .nothing false [] rest)

def tokens (s : String) : Array String :=
  (tokensFrom .nothing false [] (s.toList.filter (· != '\x00'))).toArray

/-! ### The words of the calendar -/

/-- Words that say nothing. -/
def fillers : List String :=
  [" ", ".", ",", ";", "-", "/", "'", "at", "on", "and", "ad", "m", "t", "of", "st", "nd", "rd", "th"]

def weekdays : List (List String) :=
  [["mon", "monday"], ["tue", "tuesday"], ["wed", "wednesday"], ["thu", "thursday"], ["fri", "friday"],
   ["sat", "saturday"], ["sun", "sunday"]]

def months : List (List String) :=
  [["jan", "january"], ["feb", "february"], ["mar", "march"], ["apr", "april"], ["may"], ["jun", "june"],
   ["jul", "july"], ["aug", "august"], ["sep", "sept", "september"], ["oct", "october"],
   ["nov", "november"], ["dec", "december"]]

def units : List (List String) :=
  [["h", "hour", "hours"], ["m", "minute", "minutes"], ["s", "second", "seconds"]]

def halves : List (List String) := [["am", "a"], ["pm", "p"]]

def universal : List String := ["utc", "gmt", "z"]

def placeIn? (words : List (List String)) (token : String) : Option Nat :=
  words.findIdx? (·.contains (Text.lower token))

def isFiller (token : String) : Bool := fillers.contains (Text.lower token)

def month? (token : String) : Option Nat := (placeIn? months token).map (· + 1)

/-! ### Numbers -/

/-- A number with the digits behind its point. -/
structure Amount where
  whole : Nat
  digits : List Nat

namespace Amount

/-- A sixtieth of the part behind the point, cut off. -/
def sixtieths (a : Amount) : Nat := 60 * Number.ofDigits a.digits / Nat.pow 10 a.digits.length

def hasPart (a : Amount) : Bool := a.digits.any (· != 0)

end Amount

def digits? (cs : List Char) : Option (List Nat) := cs.mapM Text.digitValue?

def whole? (token : String) : Option Nat :=
  if token.isEmpty then none else (digits? token.toList).map Number.ofDigits

def amount? (token : String) : Option Amount := do
  let cs := token.toList
  let head := cs.takeWhile (· != '.')
  let tail := (cs.drop head.length).drop 1
  let whole ← whole? (String.ofList head)
  if head.length < cs.length && tail.isEmpty then none
  else some ⟨whole, ← digits? tail⟩

/-- Whether a token counts as a number, even if it has no value. -/
def isNumber (token : String) : Bool :=
  (amount? token).isSome || ["nan", "inf", "infinity"].contains (Text.lower token)

def seconds? (token : String) : Option (Nat × Nat) :=
  match Text.splitText "." token with
  | [whole] => do some (← whole? whole, 0)
  | [whole, part] => do
    let digits ← digits? part.toList
    if part.isEmpty then none
    else some (← whole? whole, Number.ofDigits ((digits ++ List.replicate 6 0).take 6))
  | _ => none

/-! ### What has been read -/

inductive Label where
  | year
  | month
  | day
  deriving DecidableEq

/-- The numbers of the date in their order, those that are known to be year, month or day, and the
rest. -/
structure Parts where
  numbers : List Nat
  yearAt : Option Nat
  monthAt : Option Nat
  dayAt : Option Nat
  hasCentury : Bool
  weekday : Option Nat
  hour : Option Nat
  minute : Option Nat
  second : Option Nat
  micro : Option Nat
  zone : Option String
  offset : Option Int

namespace Parts

def empty : Parts := ⟨[], none, none, none, false, none, none, none, none, none, none, none⟩

/-- Adds a number of the date. One that is long must be a year, and nothing is named twice. -/
def add (p : Parts) (n : Nat) (isLong : Bool) (label : Option Label) : Option Parts :=
  let place := p.numbers.length
  let p := { p with numbers := p.numbers ++ [n], hasCentury := p.hasCentury || isLong }
  if isLong && (label == some .month || label == some .day) then none
  else
    match if isLong then some Label.year else label with
    | none => some p
    | some .year => if p.yearAt.isSome then none else some { p with yearAt := some place }
    | some .month => if p.monthAt.isSome then none else some { p with monthAt := some place }
    | some .day => if p.dayAt.isSome then none else some { p with dayAt := some place }

def addToken (p : Parts) (token : String) (label : Option Label) : Option Parts := do
  p.add (← whole? token) (token.length > 2) label

def addAmount (p : Parts) (a : Amount) : Option Parts :=
  p.add a.whole (a.whole > 100 || (a.whole == 100 && a.hasPart)) none

def addMonth (p : Parts) (month : Nat) : Option Parts := p.add month false (some .month)

def couldBeDay (p : Parts) (a : Amount) : Bool :=
  let limit := match p.monthAt.bind (p.numbers[·]?), p.yearAt.bind (p.numbers[·]?) with
    | none, _ => 31
    | some month, none => daysInMonth 2000 month
    | some month, some year => daysInMonth year month
  p.dayAt.isNone && 1 ≤ a.whole && (a.whole < limit || (a.whole == limit && !a.hasPart))

/-- Year, month and day when each of them is known, but for one at most. -/
def known (p : Parts) : Option Nat × Option Nat × Option Nat :=
  let places := [p.yearAt, p.monthAt, p.dayAt]
  let missing := (List.range 3).find? fun i => !places.contains (some i)
  let fill (place : Option Nat) : Option Nat :=
    match place with
    | some i => p.numbers[i]?
    | none => if p.numbers.length == 3 then missing.bind (p.numbers[·]?) else none
  (fill p.yearAt, fill p.monthAt, fill p.dayAt)

def date? (p : Parts) : Option (Option Nat × Option Nat × Option Nat) :=
  let labels := ([p.yearAt, p.monthAt, p.dayAt].filter Option.isSome).length
  let size := p.numbers.length
  if (size == labels && size > 0) || (size == 3 && labels == 2) then some p.known
  else
    match p.numbers, p.monthAt with
    | [], _ => some (none, none, none)
    | [_], some _ => some (none, p.numbers.head?, none)
    | [n], none => some (if n > 31 then (some n, none, none) else (none, none, some n))
    | [a, b], some place =>
      let (month, other) := if place == 0 then (a, b) else (b, a)
      some (if other > 31 then (some other, some month, none) else (none, some month, some other))
    | [a, b], none =>
      some (if a > 31 then (some a, some b, none)
        else if b > 31 then (some b, some a, none)
        else (none, some a, some b))
    | [a, b, c], some 0 =>
      some (if b > 31 then (some b, some a, some c) else (some c, some a, some b))
    | [a, b, c], some 1 =>
      some (if a > 31 then (some a, some b, some c) else (some c, some b, some a))
    | [a, b, c], some _ =>
      some (if b > 31 then (some b, some c, some a) else (some a, some c, some b))
    | [a, b, c], none =>
      some (if a > 31 || p.yearAt == some 0 then (some a, some b, some c)
        else if a > 12 then (some c, some b, some a)
        else (some c, some a, some b))
    | _, _ => none

end Parts

/-- An hour of a clock with two halves. -/
def inHalf (hour half : Nat) : Nat :=
  if hour < 12 && half == 1 then hour + 12 else if hour == 12 && half == 0 then 0 else hour

/-! ### Reading -/

def unitAt? (all : Array String) (i : Nat) : Option Nat :=
  let isUnit (k : Nat) : Bool := ((all[k]?).bind (placeIn? units)).isSome
  if isUnit (i + 1) then some (i + 1)
  else if all[i + 1]? == some " " && isUnit (i + 2) then some (i + 2)
  else if i > 0 && isUnit (i - 1) then some (i - 1)
  else if i > 1 && i + 1 == all.size && all[i - 1]? == some " " && isUnit (i - 2) then some (i - 2)
  else none

def giveUnit (p : Parts) (token : String) (a : Amount) (unit : Nat) : Option Parts :=
  match unit with
  | 0 =>
    some { p with hour := some a.whole, minute := if a.hasPart then some a.sixtieths else p.minute }
  | 1 =>
    some { p with minute := some a.whole, second := if a.hasPart then some a.sixtieths else none }
  | 2 => do
    let (second, micro) ← seconds? token
    some { p with second := some second, micro := some micro }
  | _ => some p

def part (token : String) (start stop : Nat) : String :=
  String.ofList ((token.toList.take stop).drop start)

/-- Reads a number, and gives the place of the last token that belongs to it. -/
def readNumber (all : Array String) (i : Nat) (token : String) (p : Parts) :
    Option (Nat × Parts) := do
  let a ← amount? token
  let size := token.length
  let behind := all[i + 1]?
  let behindIs (s : String) : Bool := behind == some s
  let hasUnitBehind := (behind.bind (placeIn? units)).isSome
  if p.numbers.length == 3 && (size == 2 || size == 4) && p.hour.isNone && !behindIs ":" && !hasUnitBehind then
    let hour ← whole? (part token 0 2)
    let minute ← if size == 4 then (whole? (part token 2 4)).map some else some p.minute
    some (i, { p with hour := some hour, minute := minute })
  else if size == 6 || (size > 6 && (token.toList.findIdx? (· == '.')) == some 6) then
    if p.numbers.isEmpty && !token.toList.contains '.' then
      let p ← p.addToken (part token 0 2) none
      let p ← p.addToken (part token 2 4) none
      some (i, ← p.addToken (part token 4 6) none)
    else
      let hour ← whole? (part token 0 2)
      let minute ← whole? (part token 2 4)
      let (second, micro) ← seconds? (part token 4 size)
      some (i, { p with hour := some hour, minute := some minute, second := some second, micro := some micro })
  else if size == 8 || size == 12 || size == 14 then
    let p ← p.addToken (part token 0 4) (some .year)
    let p ← p.addToken (part token 4 6) none
    let p ← p.addToken (part token 6 8) none
    if size == 8 then some (i, p)
    else
      let hour ← whole? (part token 8 10)
      let minute ← whole? (part token 10 12)
      let second ← if size == 14 then (whole? (part token 12 14)).map some else some p.second
      some (i, { p with hour := some hour, minute := some minute, second := second })
  else
    match unitAt? all i with
    | some place =>
      let unit ← (all[place]?).bind (placeIn? units)
      if place > i then some (place, ← giveUnit p token a unit)
      else some (i, ← giveUnit p token a (unit + 1))
    | none =>
      if behindIs ":" && i + 2 < all.size then
        let minutes ← (all[i + 2]?).bind amount?
        let p := { p with
          hour := some a.whole, minute := some minutes.whole,
          second := if minutes.hasPart then some minutes.sixtieths else none }
        if all[i + 3]? == some ":" && i + 4 < all.size then
          let (second, micro) ← (all[i + 4]?).bind seconds?
          some (i + 4, { p with second := some second, micro := some micro })
        else some (i + 2, p)
      else if behindIs "-" || behindIs "/" || behindIs "." then
        let p ← p.addToken token none
        match all[i + 2]? with
        | none => some (i + 1, p)
        | some second =>
          if isFiller second then some (i + 1, p)
          else
            let p ← if second.toList.all Text.isDigitSign then p.addToken second none
              else (month? second).bind p.addMonth
            if all[i + 3]? == behind then
              let third ← all[i + 4]?
              let p ← match month? third with
                | some month => p.addMonth month
                | none => p.addToken third none
              some (i + 4, p)
            else some (i + 2, p)
      else if behind.isNone || (behind.map isFiller).getD false then
        match (all[i + 2]?).bind (placeIn? halves) with
        | some half => some (i + 2, { p with hour := some (inHalf a.whole half) })
        | none => some (i + 1, ← p.addAmount a)
      else
        match behind.bind (placeIn? halves) with
        | some half =>
          if a.whole < 24 then some (i + 1, { p with hour := some (inHalf a.whole half) })
          else if p.couldBeDay a then some (i, ← p.addAmount a)
          else none
        | none => if p.couldBeDay a then some (i, ← p.addAmount a) else none

/-- The year that two digits stand for: the one that is nearest to this year. -/
def fullYear (year : Nat) (hasCentury : Bool) : Nat :=
  let now := 2026
  if year < 100 && !hasCentury then
    let guess := year + now / 100 * 100
    if guess ≥ now + 50 then guess - 100 else if guess + 50 < now then guess + 100 else guess
  else year

def readMonth (all : Array String) (i month : Nat) (p : Parts) : Option (Nat × Parts) := do
  let p ← p.addMonth month
  let behind := all[i + 1]?
  if behind == some "-" || behind == some "/" then
    let p ← p.addToken (← all[i + 2]?) none
    if all[i + 3]? == behind then some (i + 4, ← p.addToken (← all[i + 4]?) none)
    else some (i + 2, p)
  else if i + 4 < all.size && behind == some " " && all[i + 3]? == some " " &&
      ((all[i + 2]?).map Text.lower) == some "of" then
    match (all[i + 4]?).bind whole? with
    | some year => some (i + 4, ← p.addToken (toString (fullYear year false)) (some .year))
    | none => some (i + 4, p)
  else some (i, p)

def couldBeZone (p : Parts) (offset : Option Int) (token : String) : Bool :=
  p.hour.isSome && p.zone.isNone && offset.isNone && token.length ≤ 5 &&
    (token.toList.all (fun c => 'A' ≤ c && c ≤ 'Z') || ["UTC", "GMT", "Z", "z"].contains token)

def readOffset (all : Array String) (i : Nat) (isAhead : Bool) (p : Parts) :
    Option (Nat × Parts) := do
  let token ← all[i + 1]?
  let (hours, minutes, last) ←
    if token.length == 4 then do some (← whole? (part token 0 2), ← whole? (part token 2 4), i)
    else if all[i + 2]? == some ":" then do some (← whole? token, ← whole? (← all[i + 3]?), i + 2)
    else if token.length ≤ 2 then do some (← whole? token, 0, i)
    else none
  let distance : Int := hours * 3600 + minutes * 60
  let p := { p with offset := some (if isAhead then distance else -distance) }
  match all[last + 2]?, all[last + 3]?, all[last + 4]?, all[last + 5]? with
  | some filler, some "(", some name, some ")" =>
    if isFiller filler && name.length ≥ 3 && couldBeZone p none name then
      some (last + 5, { p with zone := some name })
    else some (last + 1, p)
  | _, _, _, _ => some (last + 1, p)

/-- Reads the name of a zone. A sign behind it says how far universal time is from the zone, and not
the other way round. -/
def readZone (all : Array String) (i : Nat) (token : String) (p : Parts) : Array String × Parts :=
  let p := { p with zone := some token, offset := if token == "z" then some 0 else none }
  let turned (sign : String) : Array String × Parts :=
    (all.setIfInBounds (i + 1) sign,
      { p with offset := none, zone := if universal.contains (Text.lower token) then none else p.zone })
  match all[i + 1]? with
  | some "+" => turned "-"
  | some "-" => turned "+"
  | _ => (all, p)

def readFrom : Nat → Array String → Nat → Parts → Option Parts
  | 0, _, _, _ => none
  | fuel + 1, all, i, p =>
    match all[i]? with
    | none => some p
    | some token =>
      let goOn (found : Nat × Parts) : Option Parts := readFrom fuel all (found.1 + 1) found.2
      if isNumber token then (readNumber all i token p).bind goOn
      else
        match placeIn? weekdays token, month? token, placeIn? halves token with
        | some day, _, _ => goOn (i, { p with weekday := some day })
        | none, some month, _ => (readMonth all i month p).bind goOn
        | none, none, some half =>
          match p.hour with
          | some hour =>
            if hour ≤ 12 then goOn (i, { p with hour := some (inHalf hour half) }) else none
          | none => none
        | none, none, none =>
          if couldBeZone p p.offset token then
            let (all, p) := readZone all i token p
            readFrom fuel all (i + 1) p
          else if p.hour.isSome && (token == "+" || token == "-") then
            (readOffset all i (token == "+") p).bind goOn
          else if isFiller token then goOn (i, p)
          else none

structure Found where
  moment : Moment
  zone : Option String

inductive Fault where
  | unreadable
  | tooLarge

def maxNumber : Nat := 2147483647

/-- The date that completes others. -/
def reference : Date := ⟨2000, 1, 1⟩

def zoneOf (p : Parts) : Option Int × Option String :=
  let isUniversal := ((p.zone.map Text.lower).map universal.contains).getD false
  if isUniversal || p.offset == some 0 then (some 0, none) else (p.offset, p.zone)

def read (s : String) : Except Fault Found := do
  let all := tokens s
  match readFrom (all.size + 1) all 0 Parts.empty with
  | none => throw .unreadable
  | some p =>
    match p.date? with
    | none => throw .unreadable
    | some (year, month, day) =>
      let time := [p.hour, p.minute, p.second, p.micro]
      let isEmpty := ([year, month, day, p.weekday] ++ time).all Option.isNone && p.zone.isNone && p.offset.isNone
      if isEmpty then throw .unreadable
      let year := (year.map fun y => fullYear y p.hasCentury).getD reference.year
      let month := month.getD reference.month
      if (1 > month || month > 12) && day.isNone then throw .unreadable
      let day := day.getD (min reference.day (daysInMonth year month))
      if (([year, month, day] ++ time.map (·.getD 0)).any (· > maxNumber)) then throw .tooLarge
      let (offset, zone) := zoneOf p
      let m : Moment :=
        ⟨⟨year, month, day⟩, p.hour.getD 0, p.minute.getD 0, p.second.getD 0, p.micro.getD 0,
          if zone.isSome && offset.isNone then none else offset⟩
      if m.isValid then return ⟨m, zone⟩ else throw .unreadable

end Orchestration.Calendar.Reading
