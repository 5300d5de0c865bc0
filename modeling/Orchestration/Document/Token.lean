import Orchestration.Text.Escape
import Orchestration.Text.Ranges

/-!
The tokens of a structured document.

Indentation gives a document its blocks: a line that starts further to the right than the block
around it opens a new block, and a line that starts further to the left closes one. Between brackets
and braces indentation does not count. A key is known to be one only when its colon is met, and its
token is then put in front of what was read since.
-/

namespace Orchestration.Document

inductive Failure where
  | character
  | token
  | arrangement
  | reference
  | construction (text : String)
  deriving Repr

inductive Style where
  | plain
  | quoted
  | block
  deriving DecidableEq, Repr

inductive Token where
  | directive (name : String) (words : List String)
  | documentStart
  | documentEnd
  | streamEnd
  | blockSequenceStart
  | blockMappingStart
  | blockEnd
  | flowSequenceStart
  | flowSequenceEnd
  | flowMappingStart
  | flowMappingEnd
  | flowEntry
  | blockEntry
  | key
  | value
  | alias (name : String)
  | anchor (name : String)
  | tag (handle ending : String)
  | scalar (style : Style) (text : String)
  deriving DecidableEq, Repr, Inhabited

structure KeyPlace where
  level : Nat
  tokenNumber : Nat
  isRequired : Bool
  index : Nat
  line : Nat
  column : Nat

structure Scanner where
  rest : List Char
  index : Nat
  line : Nat
  column : Nat
  level : Nat
  indent : Int
  indents : List Int
  keyAllowed : Bool
  keys : List KeyPlace
  tokens : Array Token

abbrev Scan := StateT Scanner (Except Failure)

namespace Scan

def ending : Char := Char.ofNat 0

def isBreak (c : Char) : Bool :=
  c == '\n' || c == '\r' || c.toNat == 0x85 || c.toNat == 0x2028 || c.toNat == 0x2029

def isEnd (c : Char) : Bool := c == ending

def isBreakOrEnd (c : Char) : Bool := isBreak c || isEnd c

def isBlank (c : Char) : Bool := c == ' ' || c == '\t'

def isBlankOrEnd (c : Char) : Bool := isBlank c || isBreakOrEnd c

def fail {α : Type} : Scan α := throw .token

def peekAt (n : Nat) : Scan Char := do return ((← get).rest[n]?).getD ending

def peek : Scan Char := peekAt 0

def step (s : Scanner) : Scanner :=
  match s.rest with
  | [] => s
  | c :: rest =>
    let s := { s with rest := rest, index := s.index + 1 }
    if isBreak c && !(c == '\r' && rest.head? == some '\n') then
      { s with line := s.line + 1, column := 0 }
    else { s with column := s.column + 1 }

def forward (n : Nat) : Scan Unit := modify fun s => n.repeat step s

def column : Scan Nat := do return (← get).column

def emit (t : Token) : Scan Unit := modify fun s => { s with tokens := s.tokens.push t }

/-- How often a loop over what is left can run. -/
def bound : Scan Nat := do return (← get).rest.length + 2

def takeWhile (p : Char → Bool) : Scan String := do
  let word := (← get).rest.takeWhile p
  forward word.length
  return String.ofList word

def lineBreak : Scan String := do
  match (← get).rest with
  | '\r' :: '\n' :: _ => do
    forward 2
    return "\n"
  | c :: _ =>
    if !isBreak c then return ""
    else do
      forward 1
      if c == '\n' || c == '\r' || c.toNat == 0x85 then return "\n" else return String.singleton c
  | [] => return ""

/-! ### Indentation and keys -/

def unwindTo (column : Int) : Nat → Scan Unit
  | 0 => return ()
  | fuel + 1 => do
    let s ← get
    if s.indent > column then
      set { s with indent := s.indents.headD (-1), indents := s.indents.tail }
      emit .blockEnd
      unwindTo column fuel
    else return ()

/-- Closes the blocks that a line at this column ends. -/
def unwind (column : Int) : Scan Unit := do
  let s ← get
  if s.level == 0 then unwindTo column (s.indents.length + 1)

/-- Opens a block at a column; gives whether it is a new one. -/
def addIndent (column : Nat) : Scan Bool := do
  let s ← get
  if s.indent < column then
    set { s with indent := (column : Int), indents := s.indent :: s.indents }
    return true
  else return false

def currentKey : Scan (Option KeyPlace) := do
  let s ← get
  return s.keys.find? (·.level == s.level)

def dropKey : Scan Unit := do
  match ← currentKey with
  | none => return ()
  | some key =>
    if key.isRequired then fail
    else modify fun s => { s with keys := s.keys.filter (·.level != key.level) }

def saveKey : Scan Unit := do
  let s ← get
  if s.keyAllowed then
    dropKey
    modify fun s => { s with keys :=
      ⟨s.level, s.tokens.size, s.level == 0 && s.indent == s.column, s.index, s.line, s.column⟩ :: s.keys }

/-- Forgets the keys that are too far back: a key ends on its line. -/
def dropStaleKeys : Scan Unit := do
  let s ← get
  let isStale (key : KeyPlace) : Bool := key.line != s.line || s.index - key.index > 1024
  if s.keys.any fun key => isStale key && key.isRequired then fail
  else set { s with keys := s.keys.filter fun key => !isStale key }

def allowKey (b : Bool) : Scan Unit := modify fun s => { s with keyAllowed := b }

/-! ### Blanks and comments -/

def skipToToken : Nat → Scan Unit
  | 0 => return ()
  | fuel + 1 => do
    let s ← get
    let _ ← takeWhile fun c => c == ' ' || (c == '\t' && (s.level > 0 || !s.keyAllowed))
    if (← peek) == '#' then
      let _ ← takeWhile fun c => !isBreakOrEnd c
    if isBreak (← peek) then
      let _ ← lineBreak
      if (← get).level == 0 then allowKey true
      skipToToken fuel
    else return ()

/-- Whether three characters at the start of a line set documents apart. -/
def atMarker (mark : Char) : Scan Bool := do
  let s ← get
  let next ← peekAt 3
  return s.column == 0 && s.rest.take 3 == [mark, mark, mark] && isBlankOrEnd next

def atAnyMarker : Scan Bool := do
  if ← atMarker '-' then return true else atMarker '.'

/-! ### Scalars -/

structure Header where
  keep : Option Bool
  increment : Option Nat

def readHeader : Nat → Header → Scan Header
  | 0, header => return header
  | fuel + 1, header => do
    let c ← peek
    if (c == '+' || c == '-') && header.keep.isNone then
      forward 1
      readHeader fuel { header with keep := some (c == '+') }
    else if c.isDigit && header.increment.isNone then
      if c == '0' then fail
      else
        forward 1
        readHeader fuel { header with increment := some (c.toNat - '0'.toNat) }
    else return header

/-- The breaks before the first line of a block scalar, and how far its lines are indented. -/
def blockIndentation : Nat → List String → Nat → Scan (List String × Nat)
  | 0, breaks, widest => return (breaks, widest)
  | fuel + 1, breaks, widest => do
    let c ← peek
    if c == ' ' then
      forward 1
      blockIndentation fuel breaks (max widest (← column))
    else if isBreak c then
      let b ← lineBreak
      blockIndentation fuel (breaks ++ [b]) widest
    else return (breaks, widest)

def skipIndent (indent : Nat) : Nat → Scan Unit
  | 0 => return ()
  | fuel + 1 => do
    if (← column) < indent && (← peek) == ' ' then
      forward 1
      skipIndent indent fuel
    else return ()

def blockBreaks (indent : Nat) : Nat → List String → Scan (List String)
  | 0, breaks => return breaks
  | fuel + 1, breaks => do
    skipIndent indent (indent + 1)
    if isBreak (← peek) then
      let b ← lineBreak
      blockBreaks indent fuel (breaks ++ [b])
    else
      if (← peek) == '\t' && (← column) < indent then fail
      else return breaks

def blockLines (isFolded : Bool) (indent : Nat) :
    Nat → List String → List String → Scan (List String × String × List String)
  | 0, parts, breaks => return (parts, "", breaks)
  | fuel + 1, parts, breaks => do
    let startsText := !isBlank (← peek)
    let line ← takeWhile fun c => !isBreakOrEnd c
    let parts := parts ++ breaks ++ [line]
    let ends ← lineBreak
    let size ← bound
    let breaks ← blockBreaks indent size []
    if (← column) == indent && !isEnd (← peek) then
      let joined :=
        if isFolded && ends == "\n" && startsText && !isBlank (← peek) then
          (if breaks.isEmpty then [" "] else [])
        else [ends]
      blockLines isFolded indent fuel (parts ++ joined) breaks
    else return (parts, ends, breaks)

def blockScalar (isFolded : Bool) : Scan Unit := do
  forward 1
  let header ← readHeader 3 ⟨none, none⟩
  let _ ← takeWhile isBlank
  if (← peek) == '#' then
    let _ ← takeWhile fun c => !isBreakOrEnd c
  if !isBreakOrEnd (← peek) then fail
  let _ ← lineBreak
  let least := max 1 ((← get).indent + 1).toNat
  let size ← bound
  let (breaks, indent) ← match header.increment with
    | some n => do
      let indent := least + n - 1
      pure (← blockBreaks indent size [], indent)
    | none => do
      let (breaks, widest) ← blockIndentation size [] 0
      let indent := max least widest
      pure (breaks, indent)
  let (parts, ends, breaks) ←
    if (← column) == indent && !isEnd (← peek) then blockLines isFolded indent size [] breaks
    else pure ([], "", breaks)
  let tail := match header.keep with
    | some false => []
    | none => [ends]
    | some true => ends :: breaks
  emit (.scalar .block (String.join (parts ++ tail)))

def flowBreaks : Nat → List String → Scan (List String)
  | 0, breaks => return breaks
  | fuel + 1, breaks => do
    if ← atAnyMarker then fail
    let _ ← takeWhile isBlank
    if isBreak (← peek) then
      let b ← lineBreak
      flowBreaks fuel (breaks ++ [b])
    else return breaks

/-- What the blanks between two words of a quoted scalar stand for. -/
def flowSpaces : Scan String := do
  let blanks ← takeWhile isBlank
  if isEnd (← peek) then fail
  else if isBreak (← peek) then
    let first ← lineBreak
    let size ← bound
    let breaks ← flowBreaks size []
    let start := if first != "\n" then first else if breaks.isEmpty then " " else ""
    return start ++ String.join breaks
  else return blanks

def simpleEscape? : Char → Option String
  | '0' => some "\x00"
  | 'a' => some "\x07"
  | 'b' => some "\x08"
  | 't' | '\t' => some "\t"
  | 'n' => some "\n"
  | 'v' => some "\x0b"
  | 'f' => some "\x0c"
  | 'r' => some "\r"
  | 'e' => some "\x1b"
  | ' ' => some " "
  | '"' => some "\""
  | '/' => some "/"
  | '\\' => some "\\"
  | 'N' => some (String.singleton (Char.ofNat 0x85))
  | '_' => some (String.singleton (Char.ofNat 0xa0))
  | 'L' => some (String.singleton (Char.ofNat 0x2028))
  | 'P' => some (String.singleton (Char.ofNat 0x2029))
  | _ => none

def escapeWidth? : Char → Option Nat
  | 'x' => some 2
  | 'u' => some 4
  | 'U' => some 8
  | _ => none

def isHex (c : Char) : Bool := (Text.hexDigit? c).isSome

def doubleEscape : Scan String := do
  let c ← peek
  match simpleEscape? c, escapeWidth? c with
  | some s, _ => do
    forward 1
    return s
  | none, some width => do
    forward 1
    let digits := (← get).rest.take width
    if digits.length == width && digits.all isHex then
      forward width
      return String.singleton (Char.ofNat (Text.hexValue digits))
    else fail
  | none, none =>
    if isBreak c then do
      let _ ← lineBreak
      let size ← bound
      return String.join (← flowBreaks size [])
    else fail

def quotedParts (isDouble : Bool) : Nat → List String → Scan (List String)
  | 0, parts => return parts
  | fuel + 1, parts => do
    let word ← takeWhile fun c => c != '\'' && c != '"' && c != '\\' && !isBlankOrEnd c
    let parts := if word.isEmpty then parts else word :: parts
    let c ← peek
    if !isDouble && c == '\'' && (← peekAt 1) == '\'' then
      forward 2
      quotedParts isDouble fuel ("'" :: parts)
    else if c == (if isDouble then '"' else '\'') then return parts
    else if (isDouble && c == '\'') || (!isDouble && (c == '"' || c == '\\')) then
      forward 1
      quotedParts isDouble fuel (String.singleton c :: parts)
    else if isDouble && c == '\\' then
      forward 1
      let s ← doubleEscape
      quotedParts isDouble fuel (s :: parts)
    else
      if ← atAnyMarker then fail
      let s ← flowSpaces
      quotedParts isDouble fuel (s :: parts)

def quotedScalar (isDouble : Bool) : Scan Unit := do
  forward 1
  let size ← bound
  let parts ← quotedParts isDouble size []
  forward 1
  emit (.scalar .quoted (String.join parts.reverse))

def isFlowMark (c : Char) : Bool := c == ',' || c == '[' || c == ']' || c == '\x7b' || c == '\x7d'

def plainLength (inFlow : Bool) : List Char → Option Nat
  | [] => some 0
  | c :: rest =>
    let next := rest.headD ending
    if isBlankOrEnd c then some 0
    else if inFlow && c == ':' && (isFlowMark next || next == '?') then none
    else if c == ':' && isBlankOrEnd next then some 0
    else if inFlow && isFlowMark c then some 0
    else (plainLength inFlow rest).map (· + 1)

def plainBreaks : Nat → List String → Scan (List String)
  | 0, breaks => return breaks
  | fuel + 1, breaks => do
    let s ← get
    if isBlank (← peek) then
      if (← peek) == '\t' && s.column < (s.indent + 1).toNat && s.level == 0 then fail
      else
        forward 1
        plainBreaks fuel breaks
    else if isBreak (← peek) then
      let b ← lineBreak
      plainBreaks fuel (breaks ++ [b])
    else return breaks

def plainParts (indent : Int) : Nat → List String → String → Scan (List String)
  | 0, parts, _ => return parts
  | fuel + 1, parts, spaces => do
    let s ← get
    if (← peek) == '#' || (← atAnyMarker) then return parts
    else
      match plainLength (s.level > 0) s.rest with
      | none => fail
      | some 0 => return parts
      | some n => do
        allowKey false
        forward n
        let parts := String.ofList (s.rest.take n) :: spaces :: parts
        let blanks ← takeWhile isBlank
        let spaces ←
          if isBreak (← peek) then do
            let first ← lineBreak
            allowKey true
            let size ← bound
            let breaks ← plainBreaks size []
            pure ((if first != "\n" then first else if breaks.isEmpty then " " else "") ++ String.join breaks)
          else pure blanks
        let here ← get
        if spaces.isEmpty || (here.level == 0 && (here.column : Int) < indent) then return parts
        else plainParts indent fuel parts spaces

def plainScalar : Scan Unit := do
  let s ← get
  let parts ← plainParts (s.indent + 1) (s.rest.length + 2) [] ""
  emit (.scalar .plain (String.join parts.reverse))

/-! ### Other tokens -/

def isNameChar (c : Char) : Bool := c.toNat < 128 && (c.isAlphanum || c == '-' || c == '_')

def isUriChar (c : Char) : Bool :=
  isNameChar c || "%;/?:@&=+$.!~*'()".toList.contains c

def isUriCharWithFlow (c : Char) : Bool := isUriChar c || c == ',' || c == '[' || c == ']'

def endsName (c : Char) : Bool :=
  isBlankOrEnd c || "?:,]%@".toList.contains c || c == '\x7d' || c.toNat == 0x60

def readName : Scan String := do
  forward 1
  let name ← takeWhile isNameChar
  if name.isEmpty || !endsName (← peek) then fail else return name

/-- A tag is written in full, by a handle and an ending, or by an ending alone. -/
def readTag : Scan Unit := do
  let s ← get
  let next ← peekAt 1
  if next == '<' then
    forward 2
    let uri ← takeWhile isUriCharWithFlow
    if uri.isEmpty || (← peek) != '>' then fail
    forward 1
    emit (.tag "" uri)
  else
    forward 1
    let word := (s.rest.drop 1).takeWhile isNameChar
    if (s.rest.drop (1 + word.length)).head? == some '!' then
      forward (word.length + 1)
      let rest ← takeWhile isUriChar
      if rest.isEmpty then fail
      emit (.tag ("!" ++ String.ofList word ++ "!") rest)
    else
      let rest ← takeWhile isUriChar
      emit (.tag "!" rest)
  let c ← peek
  if !isBlankOrEnd c && !((← get).level > 0 && c == ',') then fail

def readDirective : Scan Unit := do
  forward 1
  let name ← takeWhile isNameChar
  let line ← takeWhile fun c => !isBreakOrEnd c && c != '#'
  let _ ← takeWhile fun c => !isBreakOrEnd c
  if name != "YAML" && name != "TAG" then fail
  let words := (line.splitOn " ").filter (!·.isEmpty)
  emit (.directive name words)

def insertAt (n : Nat) (t : Token) : Scan Unit :=
  modify fun s =>
    { s with tokens := (s.tokens.toList.take n ++ t :: s.tokens.toList.drop n).toArray }

def fetchValue : Scan Unit := do
  match ← currentKey with
  | some key =>
    modify fun s => { s with keys := s.keys.filter (·.level != key.level) }
    insertAt key.tokenNumber .key
    if (← get).level == 0 then
      if ← addIndent key.column then insertAt key.tokenNumber .blockMappingStart
    allowKey false
  | none =>
    let s ← get
    if s.level == 0 then
      if !s.keyAllowed then fail
      if ← addIndent s.column then emit .blockMappingStart
    allowKey (s.level == 0)
  forward 1
  emit .value

def fetchBlockEntry : Scan Unit := do
  let s ← get
  if s.level == 0 then
    if !s.keyAllowed then fail
    if ← addIndent s.column then emit .blockSequenceStart
  allowKey true
  dropKey
  forward 1
  emit .blockEntry

def fetchKey : Scan Unit := do
  let s ← get
  if s.level == 0 then
    if !s.keyAllowed then fail
    if ← addIndent s.column then emit .blockMappingStart
  allowKey (s.level == 0)
  dropKey
  forward 1
  emit .key

def fetchFlowStart (t : Token) : Scan Unit := do
  saveKey
  modify fun s => { s with level := s.level + 1 }
  allowKey true
  forward 1
  emit t

def fetchFlowEnd (t : Token) : Scan Unit := do
  dropKey
  modify fun s => { s with level := s.level - 1 }
  allowKey false
  forward 1
  emit t

def fetchMarker (t : Token) : Scan Unit := do
  unwind (-1)
  dropKey
  allowKey false
  forward 3
  emit t

def fetchStreamEnd : Scan Unit := do
  unwind (-1)
  dropKey
  emit .streamEnd

def startsPlain (inFlow : Bool) (c next : Char) : Bool :=
  let isMark := isBlankOrEnd c || "-?:,[]#&*!|>'\"%@".toList.contains c || c == '\x7b' || c == '\x7d' ||
    c.toNat == 0x60
  !isMark || (c == '-' && !isBlankOrEnd next) ||
    (!inFlow && (c == '?' || c == ':') && !isBlankOrEnd next)

/-- Reads the next token; gives whether it was the last. -/
def fetch : Scan Bool := do
  let size ← bound
  skipToToken size
  dropStaleKeys
  unwind (← column)
  let s ← get
  let c ← peek
  let next ← peekAt 1
  let inFlow := s.level > 0
  if isEnd c && s.rest.isEmpty then
    fetchStreamEnd
    return true
  else
    if s.column == 0 && c == '%' then
      unwind (-1)
      dropKey
      allowKey false
      readDirective
    else if ← atMarker '-' then fetchMarker .documentStart
    else if ← atMarker '.' then fetchMarker .documentEnd
    else if c == '[' then fetchFlowStart .flowSequenceStart
    else if c == '\x7b' then fetchFlowStart .flowMappingStart
    else if c == ']' then fetchFlowEnd .flowSequenceEnd
    else if c == '\x7d' then fetchFlowEnd .flowMappingEnd
    else if c == ',' then
      allowKey true
      dropKey
      forward 1
      emit .flowEntry
    else if c == '-' && isBlankOrEnd next then fetchBlockEntry
    else if c == '?' && (inFlow || isBlankOrEnd next) then fetchKey
    else if c == ':' && (inFlow || isBlankOrEnd next) then fetchValue
    else if c == '*' then
      saveKey
      allowKey false
      emit (.alias (← readName))
    else if c == '&' then
      saveKey
      allowKey false
      emit (.anchor (← readName))
    else if c == '!' then
      saveKey
      allowKey false
      readTag
    else if (c == '|' || c == '>') && !inFlow then
      allowKey true
      dropKey
      blockScalar (c == '>')
    else if c == '\'' || c == '"' then
      saveKey
      allowKey false
      quotedScalar (c == '"')
    else if startsPlain inFlow c next then
      saveKey
      allowKey false
      plainScalar
    else fail
    return false

def fetchAll : Nat → Scan Unit
  | 0 => fail
  | fuel + 1 => do
    if ← fetch then return () else fetchAll fuel

end Scan

def isReadable (c : Char) : Bool :=
  let n := c.toNat
  n == 0x9 || n == 0xa || n == 0xd || (0x20 ≤ n && n ≤ 0x7e) || n == 0x85 || (0xa0 ≤ n && n != 0xfffe && n != 0xffff)

def tokens (text : String) : Except Failure (List Token) := do
  let chars := text.toList
  let chars := if chars.head? == some (Char.ofNat 0xfeff) then chars.tail else chars
  if !chars.all isReadable then throw .character
  let start : Scanner := ⟨chars, 0, 0, 0, 0, -1, [], true, [], #[]⟩
  let (_, s) ← (Scan.fetchAll (chars.length + 2)).run start
  return s.tokens.toList

end Orchestration.Document
