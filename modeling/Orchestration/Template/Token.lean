import Orchestration.Number.Reading
import Orchestration.Text.Class
import Orchestration.Text.Escape
import Orchestration.Error

/-!
Tokens of templates.

Outside of its marks a template is plain text. A block mark that stands alone on a line takes the
blanks before it and the line feed after it away. Inside of marks a closing mark counts only when
all brackets are closed.
-/

namespace Orchestration.Template

inductive Token where
  | data (s : String)
  | variableBegin
  | variableEnd
  | blockBegin
  | blockEnd
  | name (s : String)
  | integer (n : Int)
  | float (x : Float)
  | text (s : String)
  | symbol (s : String)
  | finished
  deriving Repr

namespace Token

def shown : Token → String
  | .data _ => "template data / text"
  | .variableBegin => "begin of print statement"
  | .variableEnd => "end of print statement"
  | .blockBegin => "begin of statement block"
  | .blockEnd => "end of statement block"
  | .name s => s
  | .integer _ => "integer"
  | .float _ => "float"
  | .text _ => "string"
  | .symbol s => s
  | .finished => "end of template"

def isName (s : String) : Token → Bool
  | .name t => s == t
  | _ => false

def isSymbol (s : String) : Token → Bool
  | .symbol t => s == t
  | _ => false

end Token

/-- Tokens with their lines up to the end of the text, or up to a fault. -/
structure Tokens where
  found : List (Token × Nat)
  fault : Option Error

def syntaxFault (message : String) : Error := .broken .templateSyntax message

inductive Place where
  | root
  | variable
  | block
  deriving DecidableEq

def symbols : List String :=
  ["//", "**", "==", "!=", ">=", "<=", "+", "-", "/", "*", "%", "~", "[", "]", "(", ")", "\x7b", "\x7d",
   ">", "<", "=", ".", ":", "|", ",", ";"]

def isAsciiDigit (c : Char) : Bool := '0' ≤ c && c ≤ '9'

/-- A run of digits in which single underscores may stand, and what follows. -/
def digitsWith (isDigit : Char → Bool) : Nat → List Char → List Char × List Char
  | 0, cs => ([], cs)
  | fuel + 1, cs =>
    match cs with
    | c :: rest =>
      if isDigit c then
        let (found, after) := digitsWith isDigit fuel rest
        (c :: found, after)
      else
        match rest with
        | d :: more =>
          if c == '_' && isDigit d then
            let (found, after) := digitsWith isDigit fuel (d :: more)
            (found, after)
          else ([], cs)
        | [] => ([], cs)
    | [] => ([], [])

def digitRun (cs : List Char) : List Char × List Char :=
  match cs with
  | c :: _ => if isAsciiDigit c then digitsWith isAsciiDigit cs.length cs else ([], cs)
  | [] => ([], cs)

def fractionRun (cs : List Char) : List Char × List Char :=
  match cs with
  | '.' :: rest =>
    let (digits, after) := digitRun rest
    if digits.isEmpty then ([], cs) else (digits, after)
  | _ => ([], cs)

def exponentRun (cs : List Char) : Option (List Char × List Char) :=
  match cs with
  | e :: rest =>
    if e == 'e' || e == 'E' then
      let (sign, body) := match rest with
        | '+' :: more => ([], more)
        | '-' :: more => (['-'], more)
        | _ => ([], rest)
      let (digits, after) := digitRun body
      if digits.isEmpty then none else some (sign ++ digits, after)
    else none
  | [] => none

def readFloat? (cs : List Char) : Option (Token × List Char) :=
  let (whole, rest) := digitRun cs
  if whole.isEmpty then none
  else
    let (fraction, after) := fractionRun rest
    let number (exponent : List Char) : Token :=
      let places := if fraction.isEmpty then ['0'] else fraction
      .float ((Number.readFloat? (String.ofList (whole ++ '.' :: places ++ 'e' :: exponent))).getD 0.0)
    match exponentRun after with
    | some (exponent, last) => some (number exponent, last)
    | none => if fraction.isEmpty then none else some (number ['0'], after)

def valueIn (base : Nat) (digits : List Char) : Int :=
  digits.foldl (fun n c => n * base + (Text.hexDigit? c).getD 0) 0

def isBinaryDigit (c : Char) : Bool := c == '0' || c == '1'

def isHexDigit (c : Char) : Bool := (Text.hexDigit? c).isSome

def based? (base : Nat) (isDigit : Char → Bool) (cs : List Char) : Option (Token × List Char) :=
  let body := match cs with
    | '_' :: c :: rest => if isDigit c then c :: rest else cs
    | _ => cs
  let (digits, after) := digitsWith isDigit body.length body
  if digits.isEmpty || !(body.head?.any isDigit) then none
  else some (.integer (valueIn base digits), after)

def readInteger? (cs : List Char) : Option (Token × List Char) :=
  match cs with
  | '0' :: mark :: rest =>
    let marked :=
      if mark == 'b' || mark == 'B' then based? 2 isBinaryDigit rest
      else if mark == 'o' || mark == 'O' then based? 8 Text.isOctal rest
      else if mark == 'x' || mark == 'X' then based? 16 isHexDigit rest
      else none
    match marked with
    | some answer => some answer
    | none =>
      let (_, after) := digitsWith (· == '0') cs.length cs
      some (.integer 0, after)
  | '0' :: rest => some (.integer 0, rest)
  | _ =>
    let (digits, after) := digitRun cs
    if digits.isEmpty then none else some (.integer (valueIn 10 digits), after)

def quotedBody? (mark : Char) : List Char → Option (List Char × List Char)
  | [] => none
  | '\\' :: c :: rest => (quotedBody? mark rest).map fun (body, after) => ('\\' :: c :: body, after)
  | c :: rest =>
    if c == mark then some ([], rest)
    else if c == '\\' then none
    else (quotedBody? mark rest).map fun (body, after) => (c :: body, after)

inductive Reading where
  | token (t : Token) (rest : List Char)
  | fault (e : Error)
  | nothing

def readText (mark : Char) (cs : List Char) : Reading :=
  match quotedBody? mark cs with
  | none => .nothing
  | some (body, rest) =>
    match Text.unescapeWritten body with
    | .ok text => .token (.text (String.ofList text)) rest
    | .error reason => .fault (syntaxFault reason)

def readSymbol (cs : List Char) : Reading :=
  match symbols.findSome? fun s => (Text.afterHead? s.toList cs).map fun rest => (s, rest) with
  | some (s, rest) => .token (.symbol s) rest
  | none => .nothing

def isNameChar (c : Char) : Bool := Text.isWordChar c || Text.continuesIdentifier c

def readInside (afterPoint : Bool) (cs : List Char) : Reading :=
  let float? := if afterPoint then none else readFloat? cs
  match float? with
  | some (t, rest) => .token t rest
  | none =>
    match readInteger? cs with
    | some (t, rest) => .token t rest
    | none =>
      match cs with
      | [] => .nothing
      | c :: rest =>
        if isNameChar c then
          let name := String.ofList (cs.takeWhile isNameChar)
          if Text.isIdentifier name then .token (.name name) (cs.dropWhile isNameChar)
          else .fault (syntaxFault "Invalid character in identifier")
        else if c == '\'' || c == '"' then readText c rest
        else readSymbol cs

def dropOneLineFeed : List Char → List Char
  | '\n' :: rest => rest
  | cs => cs

def dropBlank (cs : List Char) : List Char := cs.dropWhile Text.isBlank

/-- What follows a closing mark, less what the mark takes away. -/
def closing? (mark : String) (trims : Bool) (cs : List Char) : Option (List Char) :=
  match cs with
  | '-' :: rest => (Text.afterHead? mark.toList rest).map dropBlank
  | '+' :: rest => if trims then Text.afterHead? mark.toList rest else none
  | _ =>
    (Text.afterHead? mark.toList cs).map fun rest => if trims then dropOneLineFeed rest else rest

def signOf : List Char → Option Char × List Char
  | '-' :: rest => (some '-', rest)
  | '+' :: rest => (some '+', rest)
  | cs => (none, cs)

/-- The text before a mark, less the blanks that the mark takes away. -/
def beforeMark (sign : Option Char) (strips lineStarting : Bool) (text : List Char) : List Char :=
  match sign with
  | some '-' => Text.trimEndOf Text.isBlank text
  | some _ => text
  | none =>
    if strips then
      let lastLine := (text.reverse.takeWhile (· != '\n')).reverse
      let hasBreak := lastLine.length < text.length
      if (hasBreak || lineStarting) && !lastLine.isEmpty && lastLine.all Text.isBlank then
        text.take (text.length - lastLine.length)
      else text
    else text

/-- What follows a word that has to come next, blanks aside. -/
def afterWord? (word : String) (cs : List Char) : Option (List Char) :=
  (Text.afterHead? word.toList (dropBlank cs)).map dropBlank

/-- The end of a raw block: its text, the sign of its closing block, and what follows. -/
def rawEnd? : List Char → Option (List Char × Option Char × List Char)
  | [] => none
  | c :: rest =>
    let here := do
      let after ← Text.afterHead? ['\x7b', '%'] (c :: rest)
      let (sign, after) := signOf after
      let after ← afterWord? "endraw" after
      let after ← closing? "%\x7d" true after
      some ([], sign, after)
    match here with
    | some found => some found
    | none => (rawEnd? rest).map fun (text, sign, after) => (c :: text, sign, after)

def commentEnd? : List Char → Option (List Char)
  | [] => none
  | c :: rest =>
    match closing? "#\x7d" true (c :: rest) with
    | some after => some after
    | none => commentEnd? rest

inductive Opening where
  | variable
  | block
  | comment
  | raw
  deriving DecidableEq

def opening? (cs : List Char) : Option (Opening × Option Char × List Char) :=
  match cs with
  | a :: b :: rest =>
    if a != '\x7b' then none
    else if b == '\x7b' then
      let (sign, after) := signOf rest
      some (.variable, sign, after)
    else if b == '#' then
      let (sign, after) := signOf rest
      some (.comment, sign, after)
    else if b == '%' then
      let (sign, after) := signOf rest
      match (afterWord? "raw" after).bind fun later =>
          match later with
          | '-' :: more => (Text.afterHead? ['%', '\x7d'] more).map dropBlank
          | _ => Text.afterHead? ['%', '\x7d'] later with
      | some later => some (.raw, sign, later)
      | none => some (.block, sign, after)
    else none
  | _ => none

def splitAtOpening : List Char → List Char × Option (Opening × Option Char × List Char)
  | [] => ([], none)
  | c :: rest =>
    match opening? (c :: rest) with
    | some found => ([], some found)
    | none =>
      let (text, found) := splitAtOpening rest
      (c :: text, found)

def dataToken (cs : List Char) : List Token := if cs.isEmpty then [] else [.data (String.ofList cs)]

/-- The brackets that are still to be closed after a symbol. -/
def balance (brackets : List String) (s : String) : Except Error (List String) :=
  if s == "\x7b" then .ok ("\x7d" :: brackets)
  else if s == "(" then .ok (")" :: brackets)
  else if s == "[" then .ok ("]" :: brackets)
  else if s == "\x7d" || s == ")" || s == "]" then
    match brackets with
    | [] => .error (syntaxFault ("unexpected '" ++ s ++ "'"))
    | expected :: rest =>
      if expected == s then .ok rest
      else .error (syntaxFault ("unexpected '" ++ s ++ "', expected '" ++ expected ++ "'"))
  else .ok brackets

def endsLine (consumed : List Char) : Bool := consumed.getLast? == some '\n'

structure State where
  place : Place
  brackets : List String
  lineStarting : Bool
  previous : Option Char
  line : Nat

def lineFeeds (cs : List Char) : Nat := cs.countP (· == '\n')

def tokensFrom (length : Nat) : Nat → State → List Char → Tokens
  | 0, _, _ => ⟨[], none⟩
  | fuel + 1, state, cs =>
    if cs.isEmpty then ⟨[], none⟩
    else
      let consumed (rest : List Char) : List Char := cs.take (cs.length - rest.length)
      let onward (found : List (Token × Nat)) (place : Place) (brackets : List String)
          (lineStarting : Bool) (previous : Option Char) (rest : List Char) : Tokens :=
        let line := state.line + lineFeeds (consumed rest)
        let later := tokensFrom length fuel ⟨place, brackets, lineStarting, previous, line⟩ rest
        { later with found := found ++ later.found }
      let lineAt (rest : List Char) : Bool := endsLine (consumed rest)
      match state.place with
      | .root =>
        let dataAt (text : List Char) : List (Token × Nat) :=
          (dataToken text).map fun t => (t, state.line)
        match splitAtOpening cs with
        | (text, none) => ⟨dataAt text, none⟩
        | (text, some (kind, sign, after)) =>
          let data := dataAt (beforeMark sign (kind != .variable) state.lineStarting text)
          let line := state.line + lineFeeds text
          match kind with
          | .variable =>
            onward (data ++ [(.variableBegin, line)]) .variable [] (lineAt after) none after
          | .block => onward (data ++ [(.blockBegin, line)]) .block [] (lineAt after) none after
          | .comment =>
            match commentEnd? after with
            | some later => onward data .root [] (lineAt later) none later
            | none => ⟨data, if after.isEmpty then none else some (syntaxFault "Missing end of comment tag")⟩
          | .raw =>
            match rawEnd? after with
            | some (inner, closingSign, later) =>
              let kept := beforeMark closingSign true (lineAt after) inner
              onward (data ++ (dataToken kept).map fun t => (t, line)) .root [] (lineAt later) none later
            | none => ⟨data, if after.isEmpty then none else some (syntaxFault "Missing end of raw directive")⟩
      | place =>
        let mark := if place == .variable then "\x7d\x7d" else "%\x7d"
        let closed := if state.brackets.isEmpty then closing? mark (place == .block) cs else none
        match closed with
        | some rest =>
          onward [(if place == .variable then .variableEnd else .blockEnd, state.line)] .root [] (lineAt rest)
            none rest
        | none =>
          if cs.head?.any Text.isBlank then
            let rest := dropBlank cs
            onward [] place state.brackets (lineAt rest) (some ' ') rest
          else
            match readInside (state.previous == some '.') cs with
            | .token t rest =>
              let previous := (consumed rest).getLast?
              match t with
              | .symbol s =>
                match balance state.brackets s with
                | .ok brackets => onward [(t, state.line)] place brackets false previous rest
                | .error e => ⟨[], some e⟩
              | _ => onward [(t, state.line)] place state.brackets (lineAt rest) previous rest
            | .fault e => ⟨[], some e⟩
            | .nothing =>
              match cs with
              | c :: _ => ⟨[], some (syntaxFault ("unexpected char " ++ (Value.str (String.singleton c)).shown ++
                  " at " ++ toString (length - cs.length)))⟩
              | [] => ⟨[], none⟩

def unifyBreaks : List Char → List Char
  | [] => []
  | '\r' :: '\n' :: rest => '\n' :: unifyBreaks rest
  | '\r' :: rest => '\n' :: unifyBreaks rest
  | c :: rest => c :: unifyBreaks rest

/-- Lines with one kind of break, less a break at the end. -/
def normalLines (cs : List Char) : List Char :=
  let lines := unifyBreaks cs
  if endsLine lines then lines.dropLast else lines

def tokensIn (place : Place) (s : String) : Tokens :=
  let cs := normalLines s.toList
  tokensFrom cs.length (2 * cs.length + 2) ⟨place, [], true, none, 1⟩ cs

end Orchestration.Template
