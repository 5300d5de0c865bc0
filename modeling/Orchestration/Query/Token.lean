import Orchestration.Number.Reading
import Orchestration.Text.Escape
import Orchestration.Error

/-!
Tokens of queries.

A query is cut into tokens from left to right. The cutting stops at the first character that begins
no token; whether that matters is known only when a reader gets there.
-/

namespace Orchestration.Query

inductive Token where
  | variable (name : String)
  | number (v : Value)
  | function (name : String)
  | word (s : String)
  | constant (v : Value)
  | text (s : String)
  | symbol (s : String)
  deriving Repr

namespace Token

def shown : Token → String
  | .variable name => name
  | .number v | .constant v => v.text
  | .function name => name
  | .word s | .text s | .symbol s => s

end Token

structure Placed where
  token : Token
  position : Nat
  deriving Repr

inductive Ending where
  | finished
  | illegal (c : Char) (position : Nat)
  | malformed (reason : String)
  deriving Repr

structure Tokens where
  placed : List Placed
  ending : Ending

def wordOperators : List String := ["mod", "in", "not", "and", "or"]

/-- Operators and marks, the longer ones first. -/
def symbols : List String :=
  ["?.", "=>", "=~", "!~", ">=", "<=", "!=", "->", ".", "+", "-", "*", "/", ">", "<", "=", "[",
   "\x7b", "(", ")", "]", ",", "\x7d"]

def isIgnored (c : Char) : Bool := c == ' ' || c == '\t' || c == '\r' || c == '\n'

def startsWord (c : Char) : Bool := Text.isWordChar c && !Text.isDigit c

def endsWord (rest : List Char) : Bool := !(rest.head?.any Text.isWordChar)

def constantOf? : String → Option Value
  | "true" => some (.bool true)
  | "false" => some (.bool false)
  | "null" => some .null
  | _ => none

def wordToken (s : String) : Token :=
  if wordOperators.contains s then .symbol s
  else
    match constantOf? s with
    | some v => .constant v
    | none => .word s

def numberOf (digits : List Char) : Value :=
  .int ((Number.readWhole? (String.ofList digits)).getD 0)

/-- A number must not run into a word. -/
def readNumber? (cs : List Char) : Option (Token × List Char) :=
  let whole := cs.takeWhile Text.isDigit
  let rest := cs.dropWhile Text.isDigit
  let asWhole := if endsWord rest then some (.number (numberOf whole), rest) else none
  if whole.isEmpty then none
  else
    match rest with
    | '.' :: more =>
      let fraction := more.takeWhile Text.isDigit
      let after := more.dropWhile Text.isDigit
      if !fraction.isEmpty && endsWord after then
        let x := (Number.readFloat? (String.ofList (whole ++ '.' :: fraction))).getD 0.0
        some (.number (.float x), after)
      else asWhole
    | _ => asWhole

def quotedBody? (mark : Char) : List Char → Option (List Char × List Char)
  | [] => none
  | '\\' :: c :: rest =>
    if c == '\n' then none
    else (quotedBody? mark rest).map fun (body, after) => ('\\' :: c :: body, after)
  | c :: rest =>
    if c == mark then some ([], rest)
    else if c == '\\' then none
    else (quotedBody? mark rest).map fun (body, after) => (c :: body, after)

inductive Reading where
  | token (t : Token) (rest : List Char)
  | malformed (reason : String)
  | illegal

def readQuoted (mark : Char) (cs : List Char) : Reading :=
  match quotedBody? mark cs with
  | none => .illegal
  | some (body, rest) =>
    match Text.unescapeQuoted (body.length + 1) body with
    | .ok text => .token (.text (String.ofList text)) rest
    | .error e => .malformed e.message

def graveAccent : Char := Char.ofNat 0x60

/-- Text between grave accents is taken as it is. -/
def readVerbatim (cs : List Char) : Reading :=
  match quotedBody? graveAccent cs with
  | none => .illegal
  | some (body, rest) =>
    .token (.text (String.ofList (Text.replaceChars ['\\', graveAccent] [graveAccent] body none))) rest

def readSymbol (cs : List Char) : Reading :=
  match symbols.findSome? fun s => (Text.afterHead? s.toList cs).map fun rest => (s, rest) with
  | some (s, rest) => .token (.symbol s) rest
  | none => .illegal

/-- A name that is directly followed by an opening parenthesis is a function. -/
def readName (cs : List Char) : Reading :=
  let name := cs.takeWhile Text.isWordChar
  match cs.dropWhile Text.isWordChar with
  | '(' :: rest => .token (.function (String.ofList name)) rest
  | rest =>
    if ['_', '_'].isPrefixOf name then .illegal else .token (wordToken (String.ofList name)) rest

def readToken (c : Char) (cs : List Char) : Reading :=
  if c == '$' then
    .token (.variable (String.ofList ('$' :: cs.takeWhile Text.isWordChar))) (cs.dropWhile Text.isWordChar)
  else if Text.isDigit c then
    match readNumber? (c :: cs) with
    | some (t, rest) => .token t rest
    | none => .illegal
  else if startsWord c then readName (c :: cs)
  else if c == '"' || c == '\'' then readQuoted c cs
  else if c == graveAccent then readVerbatim cs
  else readSymbol (c :: cs)

def tokensFrom (length : Nat) : Nat → List Char → Tokens
  | 0, _ => ⟨[], .finished⟩
  | fuel + 1, cs =>
    match cs.dropWhile isIgnored with
    | [] => ⟨[], .finished⟩
    | c :: rest =>
      let position := length - (rest.length + 1)
      match readToken c rest with
      | .token t after =>
        let later := tokensFrom length fuel after
        { later with placed := ⟨t, position⟩ :: later.placed }
      | .malformed reason => ⟨[], .malformed reason⟩
      | .illegal => ⟨[], .illegal c position⟩

def tokens (s : String) : Tokens :=
  let cs := s.toList
  tokensFrom cs.length (cs.length + 1) cs

end Orchestration.Query
