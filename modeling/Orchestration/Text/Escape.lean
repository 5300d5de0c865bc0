import Orchestration.Text.Name

/-!
Escapes in text: a backslash and what it stands for.
-/

namespace Orchestration.Text

def simpleEscape? : Char → Option Char
  | '\\' => some '\\'
  | '\'' => some '\''
  | '"' => some '"'
  | 'a' => some '\x07'
  | 'b' => some '\x08'
  | 'f' => some '\x0c'
  | 'n' => some '\n'
  | 'r' => some '\r'
  | 't' => some '\t'
  | 'v' => some '\x0b'
  | _ => none

def isOctal (c : Char) : Bool := '0' ≤ c && c ≤ '7'

def octalValue (cs : List Char) : Nat := cs.foldl (fun n c => n * 8 + (c.toNat - '0'.toNat)) 0

def hexWidth? : Char → Option Nat
  | 'x' => some 2
  | 'u' => some 4
  | 'U' => some 8
  | _ => none

/-- The character of a code point; one half of a pair stands for the replacement character. -/
def codePoint? (n : Nat) : Option Char :=
  if n > 0x10FFFF then none
  else if 0xD800 ≤ n ∧ n ≤ 0xDFFF then some (Char.ofNat 0xFFFD)
  else some (Char.ofNat n)

/-- The pattern of an escape by code, as messages write it. -/
def hexPattern (letter : Char) (width : Nat) : String :=
  "\\" ++ String.singleton letter ++ String.ofList (List.replicate width 'X')

def unknownName : String := "unknown Unicode character name"

def illegalCode : String := "illegal Unicode character"

def hexEscape (letter : Char) (width : Nat) (cs : List Char) : Except String (Char × List Char) :=
  let digits := (cs.take width).takeWhile (hexDigit? · |>.isSome)
  if digits.length < width then .error ("truncated " ++ hexPattern letter width ++ " escape")
  else
    match codePoint? (hexValue digits) with
    | some c => .ok (c, cs.drop width)
    | none => .error illegalCode

/-- The name between braces behind the letter of an escape by name. -/
def escapedName? (cs : List Char) : Option (List Char) :=
  match cs with
  | '\x7b' :: rest =>
    let name := rest.takeWhile (· != '\x7d')
    if name.isEmpty || name.length == rest.length then none else some name
  | _ => none

def nameEscape (cs : List Char) : Except String (Char × List Char) :=
  match escapedName? cs with
  | none => .error "malformed \\N character escape"
  | some name =>
    match named? (String.ofList name) with
    | some c => .ok (c, cs.drop (name.length + 2))
    | none => .error unknownName

/-- The escape that follows a backslash, or what is wrong with it. An unknown one is kept. -/
def escape : List Char → Except String (List Char × List Char)
  | [] => .error "\\ at end of string"
  | '\n' :: rest => .ok ([], rest)
  | c :: rest =>
    match simpleEscape? c with
    | some d => .ok ([d], rest)
    | none =>
      if isOctal c then
        let digits := ((c :: rest).take 3).takeWhile isOctal
        .ok ([Char.ofNat (octalValue digits)], (c :: rest).drop digits.length)
      else
        match hexWidth? c with
        | some width => (hexEscape c width rest).map fun (d, after) => ([d], after)
        | none =>
          if c == 'N' then (nameEscape rest).map fun (d, after) => ([d], after)
          else .ok (['\\', c], rest)

def unescapeChars : Nat → List Char → Except String (List Char)
  | 0, _ => .ok []
  | _ + 1, [] => .ok []
  | fuel + 1, '\\' :: rest => do
    let (cs, after) ← escape rest
    let tail ← unescapeChars fuel after
    .ok (cs ++ tail)
  | fuel + 1, c :: rest => (unescapeChars fuel rest).map (c :: ·)

/-- The bytes of a text, each as the character of its number. -/
def bytes (s : String) : List Char := s.toUTF8.toList.map fun b => Char.ofNat b.toNat

def unescape (s : String) : Option String :=
  let cs := bytes s
  match unescapeChars (cs.length + 1) cs with
  | .ok found => some (String.ofList found)
  | .error _ => none

/-- A character above the ASCII range as an escape. -/
def escapedCode (c : Char) : List Char :=
  let digits := Nat.toDigits 16 c.toNat
  let padded (letter : Char) (width : Nat) : List Char :=
    '\\' :: letter :: (List.replicate (width - digits.length) '0' ++ digits)
  if c.toNat < 128 then [c]
  else if c.toNat < 256 then padded 'x' 2
  else if c.toNat < 65536 then padded 'u' 4
  else padded 'U' 8

/-- Resolves all escapes of a text in which characters above the ASCII range are escaped first. -/
def unescapeWritten (cs : List Char) : Except String (List Char) :=
  let plain := cs.flatMap escapedCode
  unescapeChars (plain.length + 1) plain

/-- Why an escape cannot be resolved: the place of the last byte that was read, and the reason. -/
structure BadEscape where
  last : Nat
  reason : String

namespace BadEscape

def message (e : BadEscape) : String :=
  "'unicodeescape' codec can't decode bytes in position 0-" ++ toString e.last ++ ": " ++ e.reason

end BadEscape

/-- The character with a code that is written with some digits. -/
def codeEscape (letter : Char) (digits : List Char) : Except BadEscape Char :=
  let good := digits.takeWhile (hexDigit? · |>.isSome)
  if good.length < digits.length then
    .error ⟨good.length + 1, "truncated " ++ hexPattern letter digits.length ++ " escape"⟩
  else
    match codePoint? (hexValue digits) with
    | some c => .ok c
    | none => .error ⟨digits.length + 1, illegalCode⟩

/-- Resolves the escapes of a quoted text and keeps all that is unknown as it is. -/
def unescapeQuoted : Nat → List Char → Except BadEscape (List Char)
  | 0, _ => .ok []
  | _ + 1, [] => .ok []
  | fuel + 1, '\\' :: c :: rest =>
    match simpleEscape? c with
    | some d => do .ok (d :: (← unescapeQuoted fuel rest))
    | none =>
      if isOctal c then do
        let digits := ((c :: rest).take 3).takeWhile isOctal
        let tail ← unescapeQuoted fuel ((c :: rest).drop digits.length)
        .ok (Char.ofNat (octalValue digits) :: tail)
      else
        match hexWidth? c, if c == 'N' then escapedName? rest else none with
        | some width, _ => do
          let digits := rest.take width
          if digits.length == width && !digits.contains '\n' then
            let d ← codeEscape c digits
            .ok (d :: (← unescapeQuoted fuel (rest.drop width)))
          else .ok ('\\' :: (← unescapeQuoted fuel (c :: rest)))
        | none, some name =>
          match named? (String.ofList name) with
          | some d => do .ok (d :: (← unescapeQuoted fuel (rest.drop (name.length + 2))))
          | none => .error ⟨name.length + 3, unknownName⟩
        | none, none => do .ok ('\\' :: (← unescapeQuoted fuel (c :: rest)))
  | fuel + 1, c :: rest => do .ok (c :: (← unescapeQuoted fuel rest))

end Orchestration.Text
