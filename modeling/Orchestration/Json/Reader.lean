import Orchestration.Value.Entries
import Orchestration.Text.Ranges
import Orchestration.Number.Reading

/-!
Reading JSON.

Reading goes from left to right and stops at the first fault, which is named together with the
place where it was noticed. Of two entries with one key the last value counts. Beside the numbers of
the standard, `NaN`, `Infinity` and `-Infinity` are read.
-/

namespace Orchestration.Json

inductive Fault where
  | expectingValue
  | expectingName
  | expectingColon
  | expectingComma
  | extraData
  | unterminatedString
  | controlCharacter
  | badEscape
  | badUnicodeEscape
  deriving DecidableEq, Repr

namespace Fault

def message : Fault → String
  | .expectingValue => "Expecting value"
  | .expectingName => "Expecting property name enclosed in double quotes"
  | .expectingColon => "Expecting ':' delimiter"
  | .expectingComma => "Expecting ',' delimiter"
  | .extraData => "Extra data"
  | .unterminatedString => "Unterminated string starting at"
  | .controlCharacter => "Invalid control character at"
  | .badEscape => "Invalid \\escape"
  | .badUnicodeEscape => "Invalid \\uXXXX escape"

end Fault

/-- A fault and what was left to read where it was noticed. -/
structure Failure where
  fault : Fault
  rest : List Char

namespace Failure

def message (failure : Failure) (input : List Char) : String :=
  let position := input.length - failure.rest.length
  let before := input.take position
  let line := (before.filter (· == '\n')).length + 1
  let column := (before.reverse.takeWhile (· != '\n')).length + 1
  failure.fault.message ++ ": line " ++ toString line ++ " column " ++ toString column ++ " (char " ++
    toString position ++ ")"

end Failure

abbrev Reading := Except Failure

def skipBlank (cs : List Char) : List Char :=
  cs.dropWhile fun c => c == ' ' || c == '\t' || c == '\n' || c == '\r'

def hexFour? : List Char → Option (Nat × List Char)
  | a :: b :: c :: d :: rest => do
    let a ← Text.hexDigit? a
    let b ← Text.hexDigit? b
    let c ← Text.hexDigit? c
    let d ← Text.hexDigit? d
    some (a * 4096 + b * 256 + c * 16 + d, rest)
  | _ => none

def simpleEscape? : Char → Option Char
  | '"' => some '"'
  | '\\' => some '\\'
  | '/' => some '/'
  | 'b' => some '\x08'
  | 'f' => some '\x0c'
  | 'n' => some '\n'
  | 'r' => some '\r'
  | 't' => some '\t'
  | _ => none

def lowSurrogate? : List Char → Option (Nat × List Char)
  | '\\' :: 'u' :: rest => do
    let (low, rest) ← hexFour? rest
    if 0xDC00 ≤ low ∧ low ≤ 0xDFFF then some (low, rest) else none
  | _ => none

/-- A code unit that is half of a pair and stands alone is read as the replacement character. -/
def decodeUnit (unit : Nat) (rest : List Char) : Char × List Char :=
  if 0xD800 ≤ unit ∧ unit ≤ 0xDBFF then
    match lowSurrogate? rest with
    | some (low, rest) => (Char.ofNat (0x10000 + (unit - 0xD800) * 1024 + (low - 0xDC00)), rest)
    | none => (Char.ofNat 0xFFFD, rest)
  else if 0xDC00 ≤ unit ∧ unit ≤ 0xDFFF then (Char.ofNat 0xFFFD, rest)
  else (Char.ofNat unit, rest)

/-- Reads the inside of a string up to its closing quote; `start` is the text from its opening
quote on. -/
def readString (start : List Char) : Nat → List Char → List Char → Reading (String × List Char)
  | 0, _, _ => .error ⟨.unterminatedString, start⟩
  | _ + 1, _, [] => .error ⟨.unterminatedString, start⟩
  | fuel + 1, done, c :: rest =>
    if c == '"' then .ok (String.ofList done.reverse, rest)
    else if c == '\\' then
      match rest with
      | [] => .error ⟨.unterminatedString, start⟩
      | 'u' :: after =>
        match hexFour? after with
        | none => .error ⟨.badUnicodeEscape, after⟩
        | some (unit, after) =>
          let (d, after) := decodeUnit unit after
          readString start fuel (d :: done) after
      | e :: after =>
        match simpleEscape? e with
        | some d => readString start fuel (d :: done) after
        | none => .error ⟨.badEscape, c :: rest⟩
    else if c.toNat < 32 then .error ⟨.controlCharacter, c :: rest⟩
    else readString start fuel (c :: done) rest

def isDigit (c : Char) : Bool := '0' ≤ c && c ≤ '9'

def decimal (digits : List Char) : Nat :=
  digits.foldl (fun n c => n * 10 + (c.toNat - '0'.toNat)) 0

def readFraction (cs : List Char) : Option (List Char) × List Char :=
  match cs with
  | '.' :: rest =>
    let digits := rest.takeWhile isDigit
    if digits.isEmpty then (none, cs) else (some digits, rest.dropWhile isDigit)
  | _ => (none, cs)

def readExponent (cs : List Char) : Option Int × List Char :=
  match cs with
  | e :: rest =>
    if e == 'e' || e == 'E' then
      let (negative, rest) := match rest with
        | '-' :: more => (true, more)
        | '+' :: more => (false, more)
        | _ => (false, rest)
      let digits := rest.takeWhile isDigit
      if digits.isEmpty then (none, cs)
      else
        let n : Int := decimal digits
        (some (if negative then -n else n), rest.dropWhile isDigit)
    else (none, cs)
  | [] => (none, cs)

def readNumber? (cs : List Char) : Option (Value × List Char) :=
  let (negative, body) := match cs with
    | '-' :: rest => (true, rest)
    | _ => (false, cs)
  let whole := match body with
    | '0' :: _ => ['0']
    | _ => body.takeWhile isDigit
  if whole.isEmpty then none
  else
    let (fraction, rest) := readFraction (body.drop whole.length)
    let (exponent, rest) := readExponent rest
    if fraction.isNone && exponent.isNone then
      let n : Int := decimal whole
      some (.int (if negative then -n else n), rest)
    else
      let digits := fraction.getD []
      let x := Number.ofDecimal (decimal (whole ++ digits)) (exponent.getD 0 - digits.length)
      some (.float (if negative then -x else x), rest)

def readWord? (word : String) (cs : List Char) : Option (List Char) :=
  let letters := word.toList
  if letters.isPrefixOf cs then some (cs.drop letters.length) else none

def constants : List (String × Value) :=
  [("null", .null), ("true", .bool true), ("false", .bool false), ("NaN", .float (0.0 / 0.0)),
   ("Infinity", .float (1.0 / 0.0)), ("-Infinity", .float (-1.0 / 0.0))]

def readScalar (cs : List Char) : Reading (Value × List Char) :=
  match constants.findSome? fun (word, v) => (readWord? word cs).map fun rest => (v, rest) with
  | some answer => .ok answer
  | none =>
    match readNumber? cs with
    | some answer => .ok answer
    | none => .error ⟨.expectingValue, cs⟩

mutual

def readValue : Nat → List Char → Reading (Value × List Char)
  | 0, cs => .error ⟨.expectingValue, cs⟩
  | fuel + 1, cs =>
    match cs with
    | '"' :: rest => do
      let (s, rest) ← readString cs (rest.length + 1) [] rest
      .ok (.str s, rest)
    | '[' :: rest =>
      match skipBlank rest with
      | ']' :: rest => .ok (.list [], rest)
      | rest => do
        let (items, rest) ← readItems fuel rest
        .ok (.list items, rest)
    | c :: rest =>
      if c == '\x7b' then
        match skipBlank rest with
        | [] => .error ⟨.expectingName, []⟩
        | d :: after =>
          if d == '\x7d' then .ok (.map [], after)
          else do
            let (pairs, rest) ← readEntries fuel (d :: after)
            .ok (.map (Entries.ofList pairs), rest)
      else readScalar cs
    | [] => readScalar cs

def readItems : Nat → List Char → Reading (List Value × List Char)
  | 0, cs => .error ⟨.expectingValue, cs⟩
  | fuel + 1, cs => do
    let (v, rest) ← readValue fuel cs
    match skipBlank rest with
    | ']' :: rest => .ok ([v], rest)
    | ',' :: rest => do
      let (items, rest) ← readItems fuel (skipBlank rest)
      .ok (v :: items, rest)
    | rest => .error ⟨.expectingComma, rest⟩

def readEntries : Nat → List Char → Reading (List (Value × Value) × List Char)
  | 0, cs => .error ⟨.expectingName, cs⟩
  | fuel + 1, cs =>
    match cs with
    | '"' :: rest => do
      let (name, rest) ← readString cs (rest.length + 1) [] rest
      match skipBlank rest with
      | ':' :: rest => do
        let (v, rest) ← readValue fuel (skipBlank rest)
        match skipBlank rest with
        | ',' :: rest => do
          let (pairs, rest) ← readEntries fuel (skipBlank rest)
          .ok ((.str name, v) :: pairs, rest)
        | c :: rest =>
          if c == '\x7d' then .ok ([(.str name, v)], rest) else .error ⟨.expectingComma, c :: rest⟩
        | [] => .error ⟨.expectingComma, []⟩
      | rest => .error ⟨.expectingColon, rest⟩
    | _ => .error ⟨.expectingName, cs⟩

end

def read (text : String) : Except Failure Value := do
  let cs := text.toList
  let (v, rest) ← readValue (2 * cs.length + 2) (skipBlank cs)
  match skipBlank rest with
  | [] => .ok v
  | rest => .error ⟨.extraData, rest⟩

def readOr (text : String) : Except String Value :=
  match read text with
  | .ok v => .ok v
  | .error failure => .error (failure.message text.toList)

end Orchestration.Json
