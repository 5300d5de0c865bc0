import Orchestration.Text.Layout
import Orchestration.Value.Arithmetic

/-!
Text with places that are marked by a percent sign.

A place says how the next of some arguments is written: `%s`, `%-8.3f`, `%(name)d`. The arguments
come in order, or by their names.
-/

namespace Orchestration.Text

namespace Percent

/-- How an argument looks: as text, inside of other values, and as a value. -/
structure Face (α : Type) where
  text : α → Except Error String
  shown : α → String
  value : α → Except Error Value

/-- The arguments that are still to come, and how one is found by its name. -/
structure Supply (α : Type) where
  waiting : List α
  find? : Option (String → Except Error α)

def wrongType (text : String) : Error := .broken .type text

def wrongValue (text : String) : Error := .broken .value text

structure Flags where
  left : Bool := false
  sign : Bool := false
  blank : Bool := false
  alternate : Bool := false
  zero : Bool := false

structure Place where
  flags : Flags
  width : Option Nat
  precision : Option Nat

variable {α : Type}

def Supply.next (s : Supply α) : Except Error (α × Supply α) :=
  match s.waiting with
  | a :: rest => .ok (a, { s with waiting := rest })
  | [] => .error (wrongType "not enough arguments for format string")

def readFlags (flags : Flags) : List Char → Flags × List Char
  | '-' :: rest => readFlags { flags with left := true } rest
  | '+' :: rest => readFlags { flags with sign := true } rest
  | ' ' :: rest => readFlags { flags with blank := true } rest
  | '#' :: rest => readFlags { flags with alternate := true } rest
  | '0' :: rest => readFlags { flags with zero := true } rest
  | cs => (flags, cs)

/-- A name in parentheses, in which parentheses may be nested. -/
def readKey : Nat → List Char → Option (List Char × List Char)
  | _, [] => none
  | 0, ')' :: rest => some ([], rest)
  | depth + 1, ')' :: rest => (readKey depth rest).map fun (key, after) => (')' :: key, after)
  | depth, '(' :: rest => (readKey (depth + 1) rest).map fun (key, after) => ('(' :: key, after)
  | depth, c :: rest => (readKey depth rest).map fun (key, after) => (c :: key, after)

def isAsciiDigit (c : Char) : Bool := '0' ≤ c && c ≤ '9'

/-- How large a number in a place may be, and what its type and role are called. -/
structure Limit where
  role : String
  type : String
  size : Nat

def widthLimit : Limit := ⟨"width", "ssize_t", 9223372036854775807⟩

def precisionLimit : Limit := ⟨"precision", "int", 2147483647⟩

/-- A number that is written out, or taken from the arguments where a star stands. -/
def readNumber (face : Face α) (limit : Limit) (supply : Supply α) (cs : List Char) :
    Except Error (Option Int × Supply α × List Char) := do
  match cs with
  | '*' :: rest =>
    let (a, supply) ← supply.next
    match (← face.value a).asInt? with
    | some n =>
      if n.natAbs > limit.size then
        throw (.broken .overflow ("Python int too large to convert to C " ++ limit.type))
      return (some n, supply, rest)
    | none => throw (wrongType "* wants int")
  | _ =>
    let digits := cs.takeWhile isAsciiDigit
    if digits.isEmpty then return (none, supply, cs)
    let n := Number.ofDigits (digits.map fun c => c.toNat - '0'.toNat)
    if n > limit.size then throw (wrongValue (limit.role ++ " too big"))
    return (some n, supply, cs.drop digits.length)

/-- Puts a sign or a mark before digits and fills the field up. -/
def place (p : Place) (isNumber hasMark : Bool) (text : String) : String :=
  let fill := if isNumber && p.flags.zero then '0' else ' '
  let (sign, body) := if isNumber then
      match text.toList with
      | '-' :: rest => ("-", rest)
      | cs => (if p.flags.sign then "+" else if p.flags.blank then " " else "", cs)
    else ("", text.toList)
  let (mark, digits) :=
    if hasMark && p.flags.alternate then (body.take 2, body.drop 2) else ([], body)
  let head := sign ++ String.ofList mark
  let rest := String.ofList digits
  let room := p.width.getD 0 - (head.length + rest.length)
  if p.flags.left then head ++ rest ++ Layout.filled room ' '
  else if fill == '0' then head ++ Layout.filled room '0' ++ rest
  else Layout.filled room ' ' ++ head ++ rest

def cut (precision : Option Nat) (s : String) : String :=
  match precision with
  | some n => String.ofList (s.toList.take n)
  | none => s

/-- A shown value in which characters above the ASCII range are escaped. -/
def onlyAscii (s : String) : String := String.ofList (s.toList.flatMap escapedCode)

def wholeOf (form : Char) (v : Value) : Except Error Int :=
  let needs (what : String) : Error :=
    wrongType ("%" ++ String.singleton form ++ " format: " ++ what ++ " is required, not " ++ v.typeName)
  if form == 'o' || form == 'x' || form == 'X' then
    match v.asInt? with
    | some n => .ok n
    | none => .error (needs "an integer")
  else
    match v with
    | .int _ | .bool _ | .float _ => v.toWhole
    | _ => .error (needs "a real number")

def wholeText (p : Place) (form : Char) (n : Int) : String :=
  let (digits, mark) := Layout.inBase form n.natAbs
  let zeros := Layout.filled (p.precision.getD 0 - digits.length) '0'
  (if n < 0 then "-" else "") ++ (if p.flags.alternate then mark else "") ++ zeros ++ digits

def realOf (v : Value) : Except Error Float :=
  match v with
  | .int _ | .bool _ | .float _ => v.toReal
  | _ => .error (wrongType ("must be real number, not " ++ v.typeName))

def realText (p : Place) (form : Char) (x : Float) : String :=
  let body := Layout.magnitudeText form.toLower (some (p.precision.getD 6)) p.flags.alternate x
  let body := if form.isUpper then String.ofList (body.toList.map Char.toUpper) else body
  (if Number.isNegative x then "-" else "") ++ body

def characterOf (v : Value) : Except Error String :=
  let wrong : Error := wrongType "%c requires int or char"
  match v with
  | .str s => if s.length == 1 then .ok s else .error wrong
  | _ =>
    match v.asInt? with
    | some n => Layout.characterOf n
    | none => .error wrong

def unsupported (form : Char) (index : Nat) : Error :=
  let shown := if 31 ≤ form.toNat && form.toNat ≤ 126 then form else '?'
  wrongValue ("unsupported format character '" ++ String.singleton shown ++ "' (0x" ++
    String.ofList (Nat.toDigits 16 form.toNat) ++ ") at index " ++ toString index)

def write (face : Face α) (p : Place) (form : Char) (index : Nat) (a : α) :
    Except Error String := do
  match form with
  | 's' => return place p false false (cut p.precision (← face.text a))
  | 'r' => return place p false false (cut p.precision (face.shown a))
  | 'a' => return place p false false (cut p.precision (onlyAscii (face.shown a)))
  | 'c' => return place p false false (← characterOf (← face.value a))
  | 'd' | 'i' | 'u' => return place p true false (wholeText p 'd' (← wholeOf form (← face.value a)))
  | 'o' | 'x' | 'X' => return place p true true (wholeText p form (← wholeOf form (← face.value a)))
  | 'e' | 'E' | 'f' | 'F' | 'g' | 'G' =>
    return place p true false (realText p form (← realOf (← face.value a)))
  | _ => throw (unsupported form index)

/-- What is written at the place that begins behind a percent sign, and what follows it. -/
def step (face : Face α) (length : Nat) (supply : Supply α) (cs : List Char) :
    Except Error (String × Supply α × List Char) := do
  let (supply, cs) ← match cs with
    | '(' :: rest =>
      match supply.find? with
      | none => throw (wrongType "format requires a mapping")
      | some find =>
        match readKey 0 rest with
        | none => throw (wrongValue "incomplete format key")
        | some (key, after) => do
          let found ← find (String.ofList key)
          pure ({ supply with waiting := [found] }, after)
    | _ => pure (supply, cs)
  let (flags, cs) := readFlags {} cs
  let (width, supply, cs) ← readNumber face widthLimit supply cs
  let flags := if width.any (· < 0) then { flags with left := true } else flags
  let (precision, supply, cs) ← match cs with
    | '.' :: rest => do
      let (n, supply, after) ← readNumber face precisionLimit supply rest
      pure (some (n.getD 0).toNat, supply, after)
    | _ => pure (none, supply, cs)
  let cs := match cs with
    | c :: rest => if c == 'h' || c == 'l' || c == 'L' then rest else cs
    | [] => []
  match cs with
  | [] => throw (wrongValue "incomplete format")
  | form :: rest =>
    let (a, supply) ← supply.next
    let index := length - cs.length
    return (← write face ⟨flags, width.map Int.natAbs, precision⟩ form index a, supply, rest)

def fill (face : Face α) (length : Nat) : Nat → Supply α → List Char → Except Error String
  | 0, _, _ => .ok ""
  | _ + 1, supply, [] =>
    if !supply.waiting.isEmpty && supply.find?.isNone then
      .error (wrongType "not all arguments converted during string formatting")
    else .ok ""
  | fuel + 1, supply, '%' :: '%' :: rest => do
    return "%" ++ (← fill face length fuel supply rest)
  | fuel + 1, supply, '%' :: rest => do
    let (written, supply, after) ← step face length supply rest
    return written ++ (← fill face length fuel supply after)
  | fuel + 1, supply, c :: rest => do
    return String.singleton c ++ (← fill face length fuel supply rest)

end Percent

def fillPlaces {α : Type} (face : Percent.Face α) (supply : Percent.Supply α) (s : String) :
    Except Error String :=
  Percent.fill face s.length (s.length + 1) supply s.toList

end Orchestration.Text
