import Orchestration.Error
import Orchestration.Number.Digits
import Orchestration.Number.Reading
import Orchestration.Text.Escape

/-!
Values laid out as text by a pattern.

A pattern says with what and on which side a field is filled up, how the sign is written, how wide
the field is, how digits are grouped, how many of them there are, and in which form a number is
written: `*^+10,.2f`.
-/

namespace Orchestration.Text

namespace Layout

structure Pattern where
  fill : Char
  align : Char
  sign : Option Char
  dropsNegativeZero : Bool
  isAlternate : Bool
  width : Nat
  separator : Option Char
  precision : Option Nat
  form : Option Char

def wrong (text : String) : Error := .broken .value text

def isAlign (c : Char) : Bool := c == '<' || c == '>' || c == '=' || c == '^'

def maxWidth : Nat := 9223372036854775807

def readNumber (cs : List Char) : Except Error (Option Nat × List Char) :=
  let digits := (cs.takeWhile isDigit).filterMap digitValue?
  let n := Number.ofDigits digits
  if digits.isEmpty then .ok (none, cs)
  else if n > maxWidth then .error (wrong "Too many decimal digits in format string")
  else .ok (some n, cs.dropWhile isDigit)

/-- A character in an error text. -/
def named (c : Char) : String :=
  if c.toNat > 32 && c.toNat < 128 then String.singleton c
  else "\\x" ++ String.ofList (Nat.toDigits 16 c.toNat)

def bothSeparators : Error := wrong "Cannot specify both ',' and '_'."

def readSeparator (cs : List Char) : Except Error (Option Char × List Char) :=
  match cs with
  | ',' :: '_' :: _ | '_' :: ',' :: _ => .error bothSeparators
  | ',' :: rest => .ok (some ',', rest)
  | '_' :: rest => .ok (some '_', rest)
  | _ => .ok (none, cs)

def readPrecision (cs : List Char) : Except Error (Option Nat × List Char) :=
  match cs with
  | '.' :: rest => do
    match ← readNumber rest with
    | (none, _) => .error (wrong "Format specifier missing precision")
    | found => .ok found
  | _ => .ok (none, cs)

def acceptsSeparator (separator : Char) (form : Option Char) : Bool :=
  match form with
  | none => true
  | some c => ['d', 'e', 'f', 'g', 'E', 'G', '%', 'F'].contains c ||
      (separator == '_' && ['b', 'o', 'x', 'X'].contains c)

def takeIf (p : Char → Bool) (cs : List Char) : Option Char × List Char :=
  match cs with
  | c :: rest => if p c then (some c, rest) else (none, cs)
  | [] => (none, [])

def Pattern.read (typeName : String) (align : Char) (form : Option Char) (text : String) :
    Except Error Pattern := do
  let cs := text.toList
  let (fill, givenAlign, cs) := match cs with
    | f :: a :: rest => if isAlign a then (some f, some a, rest)
      else if isAlign f then (none, some f, a :: rest) else (none, none, cs)
    | [a] => if isAlign a then (none, some a, []) else (none, none, cs)
    | [] => (none, none, [])
  let (sign, cs) := takeIf (fun c => c == ' ' || c == '+' || c == '-') cs
  let (zero, cs) := takeIf (· == 'z') cs
  let (alternate, cs) := takeIf (· == '#') cs
  let (pad, cs) := if fill.isSome then (none, cs) else takeIf (· == '0') cs
  let align := givenAlign.getD (if pad.isSome && align == '>' then '=' else align)
  let (width, cs) ← readNumber cs
  let (separator, cs) ← readSeparator cs
  let (precision, cs) ← readPrecision cs
  let form ← match cs with
    | [] => .ok form
    | [c] => .ok (some c)
    | _ => .error (wrong ("Invalid format specifier '" ++ text ++ "' for object of type '" ++ typeName ++ "'"))
  match separator with
  | some s =>
    if !acceptsSeparator s form then
      throw (wrong ("Cannot specify '" ++ String.singleton s ++ "' with '" ++
        (form.map named).getD "" ++ "'."))
  | none => pure ()
  return ⟨fill.getD (pad.getD ' '), align, sign, zero.isSome, alternate.isSome, width.getD 0, separator,
    precision, form⟩

def unknownForm (typeName : String) (form : Option Char) : Error :=
  wrong ("Unknown format code '" ++ (form.map named).getD "" ++ "' for object of type '" ++ typeName ++ "'")

def filled (n : Nat) (c : Char) : String := String.ofList (List.replicate n c)

/-- Fills a field up. What stands between `head` and `body` is filled if the field is aligned
there. -/
def Pattern.place (p : Pattern) (head body : String) : String :=
  let room := p.width - (head.length + body.length)
  match p.align with
  | '<' => head ++ body ++ filled room p.fill
  | '^' => filled (room / 2) p.fill ++ head ++ body ++ filled (room - room / 2) p.fill
  | '=' => head ++ filled room p.fill ++ body
  | _ => filled room p.fill ++ head ++ body

def onText (s pattern : String) : Except Error String := do
  let p ← Pattern.read "str" '<' (some 's') pattern
  if p.form != some 's' then throw (unknownForm "str" p.form)
  match p.sign with
  | some ' ' => throw (wrong "Space not allowed in string format specifier")
  | some _ => throw (wrong "Sign not allowed in string format specifier")
  | none => pure ()
  if p.dropsNegativeZero then
    throw (wrong "Negative zero coercion (z) not allowed in string format specifier")
  if p.isAlternate then throw (wrong "Alternate form (#) not allowed in string format specifier")
  if p.align == '=' then throw (wrong "'=' alignment not allowed in string format specifier")
  let cut := match p.precision with
    | some n => String.ofList (s.toList.take n)
    | none => s
  return p.place "" cut

/-- Digits in groups from the end, given last first; zeros are put before them up to a width. -/
def groups (separator : Char) (size : Nat) : Nat → Int → List Char → List Char
  | 0, _, digits => digits
  | fuel + 1, width, digits =>
    let length := min size (max (max digits.length width.toNat) 1)
    let here := digits.take length ++ List.replicate (length - digits.length) '0'
    let rest := digits.drop length
    let left := width - length
    if rest.isEmpty && left ≤ 0 then here
    else here ++ separator :: groups separator size fuel (left - 1) rest

/-- The digits before the point, grouped, with zeros up to a width if the field asks for that. -/
def Pattern.grouped (p : Pattern) (others : Nat) (digits : String) : String :=
  let width : Int := if p.fill == '0' && p.align == '=' then (p.width : Int) - others else 0
  if digits.isEmpty then ""
  else match p.separator with
    | none => filled (width - digits.length).toNat '0' ++ digits
    | some s =>
      let size := match p.form with
        | some c => if ['b', 'o', 'x', 'X'].contains c then 4 else 3
        | none => 3
      let found := groups s size (digits.length + width.toNat + 1) width digits.toList.reverse
      String.ofList found.reverse

def Pattern.signOf (p : Pattern) (isNegative : Bool) : String :=
  if isNegative then "-"
  else match p.sign with
    | some '+' => "+"
    | some ' ' => " "
    | _ => ""

/-- Lays a number out: its sign, a mark for its base, the digits before the point, and the rest. -/
def Pattern.number (p : Pattern) (isNegative : Bool) (base digits rest : String) : String :=
  let head := p.signOf isNegative ++ base
  p.place head (p.grouped (head.length + rest.length) digits ++ rest)

/-- How many digits stand before the point or exponent of a number. -/
def wholeDigits (s : String) : String :=
  String.ofList (s.toList.takeWhile fun c => '0' ≤ c && c ≤ '9')

/-- The digits of the magnitude of a number in some form; what is no number is a word. -/
def magnitudeText (form : Char) (precision : Option Nat) (keepsPoint : Bool) (x : Float) : String :=
  match Number.parts x with
  | .nan => "nan"
  | .infinite _ => "inf"
  | .finite _ mantissa exponent =>
    let numerator := if exponent ≥ 0 then mantissa * Nat.pow 2 exponent.toNat else mantissa
    let denominator := if exponent ≥ 0 then 1 else Nat.pow 2 (-exponent).toNat
    match form, precision with
    | 'f', n => Number.fixed numerator denominator (n.getD 6) keepsPoint
    | 'e', n => Number.scientific numerator denominator (n.getD 6) keepsPoint
    | 'g', n => Number.general numerator denominator (n.getD 6) 0 keepsPoint false
    | _, some n => Number.general numerator denominator n 1 keepsPoint true
    | _, none =>
      let text := Number.floatText x.abs
      if keepsPoint && !text.toList.contains '.' then
        let head := wholeDigits text
        head ++ "." ++ String.ofList (text.toList.drop head.length)
      else text

def isZeroText (s : String) : Bool :=
  (s.toList.takeWhile fun c => c != 'e' && c != 'E').all fun c => c == '0' || c == '.'

def wholeForms : List Char := ['b', 'c', 'd', 'o', 'x', 'X', 'n']

def floatForms : List Char := ['e', 'E', 'f', 'F', 'g', 'G', 'n', '%']

def Pattern.float (p : Pattern) (typeName : String) (x : Float) : Except Error String := do
  match p.form with
  | some c => if !floatForms.contains c then throw (unknownForm typeName p.form)
  | none => pure ()
  let isPercent := p.form == some '%'
  let x := if isPercent then x * 100.0 else x
  let form := match p.form with
    | none => 'r'
    | some '%' => 'f'
    | some 'n' => 'g'
    | some c => c.toLower
  let body := magnitudeText form p.precision p.isAlternate x
  let body := if (p.form.map Char.isUpper).getD false then String.ofList (body.toList.map Char.toUpper) else body
  let digits := wholeDigits body
  let rest := String.ofList (body.toList.drop digits.length) ++ (if isPercent then "%" else "")
  let negative :=
    Number.isNegative x && !(p.dropsNegativeZero && Number.isFinite x && isZeroText body)
  return p.number negative "" digits rest

/-- The digits of a whole number in the base of a form, and the mark of that base. -/
def inBase (form : Char) (n : Nat) : String × String :=
  let digits (base : Nat) : String := String.ofList (Nat.toDigits base n)
  match form with
  | 'b' => (digits 2, "0b")
  | 'o' => (digits 8, "0o")
  | 'x' => (digits 16, "0x")
  | 'X' => (String.ofList ((digits 16).toList.map Char.toUpper), "0X")
  | _ => (toString n, "")

def outOfRange : Error := .broken .overflow "%c arg not in range(0x110000)"

def characterOf (n : Int) : Except Error String :=
  if n < 0 || n > 0x10ffff then .error outOfRange else .ok (String.singleton (Char.ofNat n.toNat))

def onWhole (typeName : String) (n : Int) (pattern : String) : Except Error String := do
  let p ← Pattern.read typeName '>' (some 'd') pattern
  let form := p.form.getD 'd'
  if ['e', 'E', 'f', 'F', 'g', 'G', '%'].contains form then
    let x := Number.ofInt n
    if !Number.isFinite x then throw (.broken .overflow "int too large to convert to float")
    p.float typeName x
  else if !(wholeForms.contains form) then throw (unknownForm typeName p.form)
  else
    if p.precision.isSome then throw (wrong "Precision not allowed in integer format specifier")
    if p.dropsNegativeZero then
      throw (wrong "Negative zero coercion (z) not allowed in integer format specifier")
    if form == 'c' then
      if p.sign.isSome then throw (wrong "Sign not allowed with integer format specifier 'c'")
      if p.isAlternate then
        throw (wrong "Alternate form (#) not allowed with integer format specifier 'c'")
      return p.place "" (← characterOf n)
    let (digits, mark) := inBase form n.natAbs
    return p.number (n < 0) (if p.isAlternate then mark else "") digits ""

end Layout

def layOut (v : Value) (pattern : String) : Except Error String :=
  if pattern.isEmpty then .ok v.text
  else match v with
    | .str s => Layout.onText s pattern
    | .int n => Layout.onWhole "int" n pattern
    | .bool b => Layout.onWhole "bool" (if b then 1 else 0) pattern
    | .float x => do (← Layout.Pattern.read "float" '>' none pattern).float "float" x
    | _ =>
      .error (.broken .type ("unsupported format string passed to " ++ v.typeName ++ ".__format__"))

end Orchestration.Text
