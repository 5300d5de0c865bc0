import Orchestration.Query.Token

/-!
Formulas: queries as trees.

Operators are calls of functions with names of their own, so that a formula is a constant, a word, a
variable, or a call. A word in a call stands for the text of that word. A rule `key => value` names
an argument.
-/

namespace Orchestration.Query

inductive Formula where
  | constant (v : Value)
  | word (s : String)
  | variable (name : String)
  | wrapped (body : Formula)
  | call (isOperator : Bool) (name : String) (arguments : List Formula)
  | rule (key value : Formula)
  | absent
  deriving Inhabited

/-- How strongly a binary operator binds; a pair says whether it groups to the right. -/
def binaryLevel? : String → Option (Nat × Bool)
  | "." | "?." => some (10, false)
  | "[" => some (9, false)
  | "=~" | "!~" => some (7, false)
  | "*" | "/" | "mod" => some (6, false)
  | "+" | "-" => some (5, false)
  | ">" | "<" | ">=" | "<=" | "!=" | "=" | "in" => some (4, false)
  | "and" => some (2, false)
  | "or" => some (1, false)
  | "->" => some (0, true)
  | _ => none

def unaryLevel? : String → Option Nat
  | "+" | "-" => some 8
  | "not" => some 3
  | _ => none

def operatorName : String → String
  | "=" => "*equal"
  | "!=" => "*not_equal"
  | s => "#operator_" ++ s

def unaryName (s : String) : String := "#unary_operator_" ++ s

namespace Formula

def unexpected (source : String) (t : Placed) : Error :=
  .broken .queryGrammar ("Parse error: unexpected '" ++ t.token.shown ++ "' at position " ++
    toString t.position ++ " of expression '" ++ source ++ "'")

def stopped : Ending → Error
  | .finished => .broken .queryGrammar "Parse error: unexpected end of statement"
  | .illegal c position =>
    .broken .queryLexical ("Lexical error: illegal character '" ++ String.singleton c ++ "' at position " ++
      toString position)
  | .malformed reason => .broken .decoding reason

structure Source where
  text : String
  ending : Ending

abbrev Rest := List Placed

def isSymbol (s : String) : Placed → Bool
  | ⟨.symbol t, _⟩ => s == t
  | _ => false

/-- Nothing can follow here: the text has to be over, or the next token is unexpected. -/
def finish (source : Source) (rest : Rest) : Except Error Unit :=
  match rest with
  | t :: _ => .error (unexpected source.text t)
  | [] =>
    match source.ending with
    | .finished => .ok ()
    | ending => .error (stopped ending)

def wrong {α : Type} (source : Source) (rest : Rest) : Except Error α :=
  match rest with
  | t :: _ => .error (unexpected source.text t)
  | [] => .error (stopped source.ending)

def expect (source : Source) (s : String) (rest : Rest) : Except Error Rest :=
  match rest with
  | t :: more => if isSymbol s t then .ok more else .error (unexpected source.text t)
  | [] => .error (stopped source.ending)

mutual

/-- Reads an operand with all operators that bind at least as strongly as `level`. -/
def readLevel (source : Source) : Nat → Nat → Rest → Except Error (Formula × Rest)
  | 0, _, rest => wrong source rest
  | fuel + 1, level, rest => do
    let (left, rest) ← readOperand source fuel rest
    readTail source fuel level left rest

def readTail (source : Source) : Nat → Nat → Formula → Rest → Except Error (Formula × Rest)
  | 0, _, _, rest => wrong source rest
  | fuel + 1, level, left, rest =>
    match rest with
    | ⟨.symbol s, _⟩ :: more =>
      match binaryLevel? s with
      | none => .ok (left, rest)
      | some (own, toRight) =>
        if own < level then .ok (left, rest)
        else if s == "[" then do
          let (arguments, more) ← readArguments source fuel "]" more
          readTail source fuel level (.call true "#indexer" (left :: arguments)) more
        else do
          let (right, more) ← readLevel source fuel (if toRight then own else own + 1) more
          readTail source fuel level (.call true (operatorName s) [left, right]) more
    | [] =>
      match source.ending with
      | .finished => .ok (left, [])
      | ending => .error (stopped ending)
    | _ => .ok (left, rest)

def readOperand (source : Source) : Nat → Rest → Except Error (Formula × Rest)
  | 0, rest => wrong source rest
  | fuel + 1, rest =>
    match rest with
    | ⟨.constant v, _⟩ :: more | ⟨.number v, _⟩ :: more => .ok (.constant v, more)
    | ⟨.text s, _⟩ :: more => .ok (.constant (.str s), more)
    | ⟨.word s, _⟩ :: more => .ok (.word s, more)
    | ⟨.variable name, _⟩ :: more => .ok (.variable name, more)
    | ⟨.function name, _⟩ :: more => do
      let (arguments, more) ← readArguments source fuel ")" more
      .ok (.call false name arguments, more)
    | ⟨.symbol s, _⟩ :: more =>
      if s == "(" then do
        let (body, more) ← readLevel source fuel 0 more
        let more ← expect source ")" more
        .ok (.wrapped body, more)
      else if s == "[" then do
        let (arguments, more) ← readArguments source fuel "]" more
        .ok (.call true "#list" arguments, more)
      else if s == "\x7b" then do
        let (arguments, more) ← readArguments source fuel "\x7d" more
        .ok (.call true "#map" arguments, more)
      else
        match unaryLevel? s with
        | some level => do
          let (body, more) ← readLevel source fuel level more
          .ok (.call true (unaryName s) [body], more)
        | none => wrong source rest
    | [] => wrong source rest

def readArguments (source : Source) : Nat → String → Rest → Except Error (List Formula × Rest)
  | 0, _, rest => wrong source rest
  | fuel + 1, close, rest =>
    match rest with
    | t :: more =>
      if isSymbol close t then .ok ([], more) else readMore source fuel close false rest
    | [] => wrong source rest

/-- Reads arguments up to the closing mark. One may be left out before a comma; behind the first
that is named all must be. -/
def readMore (source : Source) : Nat → String → Bool → Rest → Except Error (List Formula × Rest)
  | 0, _, _, rest => wrong source rest
  | fuel + 1, close, afterNamed, rest => do
    if (rest.head?.any (isSymbol ",")) && !afterNamed then
      let (others, more) ← readMore source fuel close false rest.tail
      .ok (.absent :: others, more)
    else
      let (first, isNamed, rest) ← readArgument source fuel afterNamed rest
      match rest with
      | t :: more =>
        if isSymbol close t then .ok ([first], more)
        else if isSymbol "," t then do
          let (others, more) ← readMore source fuel close isNamed more
          .ok (first :: others, more)
        else wrong source rest
      | [] => wrong source rest

/-- Reads an argument and tells whether it is named, as it may have to be. -/
def readArgument (source : Source) : Nat → Bool → Rest → Except Error (Formula × Bool × Rest)
  | 0, _, rest => wrong source rest
  | fuel + 1, mustBeNamed, rest => do
    let (left, rest) ← readLevel source fuel 0 rest
    match rest with
    | t :: more =>
      if isSymbol "=>" t then do
        let (right, more) ← readLevel source fuel 0 more
        .ok (.rule left right, true, more)
      else if mustBeNamed then wrong source rest
      else .ok (left, false, rest)
    | [] => wrong source rest

end

def parse (text : String) : Except Error Formula := do
  let found := tokens text
  let source : Source := ⟨text, found.ending⟩
  let (formula, rest) ← readLevel source (6 * found.placed.length + 12) 0 found.placed
  finish source rest
  .ok formula

end Formula

end Orchestration.Query
