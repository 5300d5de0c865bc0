import Orchestration.Template.Tree

/-!
Reading templates.

The reader is always one token ahead: a fault in the text shows as soon as the token before it has
been read.
-/

namespace Orchestration.Template

structure Stream where
  current : Token
  line : Nat
  rest : List (Token × Nat)
  fault : Option Error

/-- Where the reader stands: the tokens, the blocks that are open, and what ends them. -/
structure Reader where
  stream : Stream
  tags : List String
  endings : List (List String)

abbrev Parse := StateT Reader (Except Error)

namespace Reader

def fail {α : Type} (message : String) : Parse α := throw (syntaxFault message)

def current : Parse Token := do return (← get).stream.current

def line : Parse Nat := do return (← get).stream.line

/-- Goes on to the next token; a fault behind the current one shows now. -/
def advance : Parse Token := do
  let reader ← get
  let stream := reader.stream
  match stream.rest with
  | (t, line) :: rest =>
    set { reader with stream := { stream with current := t, line := line, rest := rest } }
  | [] =>
    match stream.fault with
    | some e => throw e
    | none => set { reader with stream := { stream with current := .finished } }
  return stream.current

def look : Parse Token := do
  let stream := (← get).stream
  match stream.rest with
  | (t, _) :: _ => return t
  | [] =>
    match stream.fault with
    | some e => throw e
    | none => return .finished

def quoted (s : String) : String := (Value.str s).shown

def expect (wanted : String) (isWanted : Token → Bool) : Parse Token := do
  let t ← current
  if isWanted t then advance
  else
    match t with
    | .finished => fail ("unexpected end of template, expected " ++ quoted wanted ++ ".")
    | _ => fail ("expected token " ++ quoted wanted ++ ", got " ++ quoted t.shown)

def expectSymbol (s : String) : Parse Token := expect s (Token.isSymbol s)

def expectWord (s : String) : Parse Token := expect s (Token.isName s)

def expectName : Parse String := do
  match ← expect "name" (fun | .name _ => true | _ => false) with
  | .name s => return s
  | _ => return ""

def skipName (s : String) : Parse Bool := do
  if (← current).isName s then
    let _ ← advance
    return true
  else return false

def skipSymbol (s : String) : Parse Bool := do
  if (← current).isSymbol s then
    let _ ← advance
    return true
  else return false

def isVariableEnd : Token → Bool
  | .variableEnd => true
  | _ => false

def isBlockEnd : Token → Bool
  | .blockEnd => true
  | _ => false

def endsTuple (endWords : List String) (t : Token) : Bool :=
  isVariableEnd t || isBlockEnd t || t.isSymbol ")" || endWords.any fun w => t.isName w

def comparison? : Token → Option String
  | .symbol s => if ["==", "!=", "<", "<=", ">", ">="].contains s then some s else none
  | _ => none

def factor? : Token → Option Binary
  | .symbol "*" => some .mul
  | .symbol "/" => some .div
  | .symbol "//" => some .floorDiv
  | .symbol "%" => some .mod
  | _ => none

def addend? : Token → Option Binary
  | .symbol "+" => some .add
  | .symbol "-" => some .sub
  | _ => none

def startsArgument (t : Token) : Bool :=
  match t with
  | .name s => !(s == "else" || s == "or" || s == "and")
  | .text _ | .integer _ | .float _ => true
  | .symbol s => s == "(" || s == "[" || s == "\x7b"
  | _ => false

/-- How much an item of a tuple may hold: a name or constant only, no choice, or anything. -/
inductive Extent where
  | simple
  | withoutChoice
  | full

def mayFollow (earlier : List Expr) (argument : Expr) : Bool :=
  let spread := earlier.any fun | .spread _ => true | _ => false
  let spreadNamed := earlier.any fun | .spreadNamed _ => true | _ => false
  let named := earlier.any fun | .named .. => true | _ => false
  match argument with
  | .named .. | .spreadNamed _ => !spreadNamed
  | .spread _ => !spread && !spreadNamed
  | _ => !spread && !spreadNamed && !named

def tooDeep {α : Type} : Parse α := throw (.broken .recursion "maximum recursion depth exceeded")

def dottedName : Nat → String → Parse String
  | 0, name => return name
  | fuel + 1, name => do
    if ← skipSymbol "." then dottedName fuel (name ++ "." ++ (← expectName)) else return name

mutual

def expression : Nat → Parse Expr
  | 0 => tooDeep
  | fuel + 1 => do
    let start ← line
    choiceTail fuel start (← disjunction fuel)

/-- An expression that may be followed by a condition. -/
def choiceTail : Nat → Nat → Expr → Parse Expr
  | 0, _, _ => tooDeep
  | fuel + 1, start, yes => do
    if ← skipName "if" then
      let condition ← disjunction fuel
      let no ← if ← skipName "else" then expression fuel else pure .absent
      choiceTail fuel (← line) (.choice start condition yes no)
    else return yes

def disjunction : Nat → Parse Expr
  | 0 => tooDeep
  | fuel + 1 => do disjunctionTail fuel (← conjunction fuel)

def disjunctionTail : Nat → Expr → Parse Expr
  | 0, _ => tooDeep
  | fuel + 1, left => do
    if ← skipName "or" then disjunctionTail fuel (.binary .or left (← conjunction fuel))
    else return left

def conjunction : Nat → Parse Expr
  | 0 => tooDeep
  | fuel + 1 => do conjunctionTail fuel (← negation fuel)

def conjunctionTail : Nat → Expr → Parse Expr
  | 0, _ => tooDeep
  | fuel + 1, left => do
    if ← skipName "and" then conjunctionTail fuel (.binary .and left (← negation fuel))
    else return left

def negation : Nat → Parse Expr
  | 0 => tooDeep
  | fuel + 1 => do
    if ← skipName "not" then return .unary .not (← negation fuel)
    else
      let first ← sum fuel
      let operands ← comparisons fuel
      return if operands.isEmpty then first else .compare first operands

def comparisons : Nat → Parse (List Expr)
  | 0 => tooDeep
  | fuel + 1 => do
    let t ← current
    match comparison? t with
    | some s =>
      let _ ← advance
      let body ← sum fuel
      return .operand s body :: (← comparisons fuel)
    | none =>
      if ← skipName "in" then
        let body ← sum fuel
        return .operand "in" body :: (← comparisons fuel)
      else if t.isName "not" then
        if (← look).isName "in" then
          let _ ← advance
          let _ ← advance
          let body ← sum fuel
          return .operand "not in" body :: (← comparisons fuel)
        else return []
      else return []

def sum : Nat → Parse Expr
  | 0 => tooDeep
  | fuel + 1 => do sumTail fuel (← concatenation fuel)

def sumTail : Nat → Expr → Parse Expr
  | 0, _ => tooDeep
  | fuel + 1, left => do
    match addend? (← current) with
    | some operator =>
      let _ ← advance
      sumTail fuel (.binary operator left (← concatenation fuel))
    | none => return left

def concatenation : Nat → Parse Expr
  | 0 => tooDeep
  | fuel + 1 => do
    let first ← product fuel
    let others ← concatenated fuel
    return if others.isEmpty then first else .concat (first :: others)

def concatenated : Nat → Parse (List Expr)
  | 0 => tooDeep
  | fuel + 1 => do
    if ← skipSymbol "~" then
      let part ← product fuel
      return part :: (← concatenated fuel)
    else return []

def product : Nat → Parse Expr
  | 0 => tooDeep
  | fuel + 1 => do productTail fuel (← power fuel)

def productTail : Nat → Expr → Parse Expr
  | 0, _ => tooDeep
  | fuel + 1, left => do
    match factor? (← current) with
    | some operator =>
      let _ ← advance
      productTail fuel (.binary operator left (← power fuel))
    | none => return left

def power : Nat → Parse Expr
  | 0 => tooDeep
  | fuel + 1 => do powerTail fuel (← unary fuel true)

def powerTail : Nat → Expr → Parse Expr
  | 0, _ => tooDeep
  | fuel + 1, left => do
    if ← skipSymbol "**" then powerTail fuel (.binary .pow left (← unary fuel true))
    else return left

def unary : Nat → Bool → Parse Expr
  | 0, _ => tooDeep
  | fuel + 1, withFilter => do
    let body ←
      if ← skipSymbol "-" then pure (Expr.unary .negative (← unary fuel false))
      else if ← skipSymbol "+" then pure (Expr.unary .positive (← unary fuel false))
      else primary fuel
    let body ← trailers fuel body
    if withFilter then filters fuel body else return body

def primary : Nat → Parse Expr
  | 0 => tooDeep
  | fuel + 1 => do
    match ← current with
    | .name s =>
      let _ ← advance
      if s == "true" || s == "True" then return .constant (.bool true)
      else if s == "false" || s == "False" then return .constant (.bool false)
      else if s == "none" || s == "None" then return .constant .null
      else return .name s
    | .text s =>
      let _ ← advance
      return .constant (.str (s ++ (← moreText fuel)))
    | .integer n =>
      let _ ← advance
      return .constant (.int n)
    | .float x =>
      let _ ← advance
      return .constant (.float x)
    | .symbol "(" =>
      let _ ← advance
      let body ← tuple fuel .full [] true
      let _ ← expectSymbol ")"
      return body
    | .symbol "[" =>
      let _ ← advance
      return .list (← listItems fuel true)
    | t =>
      if t.isSymbol "\x7b" then
        let _ ← advance
        return .dict (← dictEntries fuel true)
      else fail ("unexpected " ++ quoted t.shown)

/-- Texts that follow each other are one text. -/
def moreText : Nat → Parse String
  | 0 => tooDeep
  | fuel + 1 => do
    match ← current with
    | .text s =>
      let _ ← advance
      return s ++ (← moreText fuel)
    | _ => return ""

/-- One expression, or several that are set apart by commas. -/
def tuple : Nat → Extent → List String → Bool → Parse Expr
  | 0, _, _, _ => tooDeep
  | fuel + 1, extent, endWords, inParentheses => do
    let (items, isTuple) ← tupleItems fuel extent endWords true
    if isTuple then return .tuple items
    else
      match items with
      | first :: _ => return first
      | [] =>
        if inParentheses then return .tuple []
        else fail ("Expected an expression, got " ++ quoted (← current).shown)

def tupleItems : Nat → Extent → List String → Bool → Parse (List Expr × Bool)
  | 0, _, _, _ => tooDeep
  | fuel + 1, extent, endWords, isFirst => do
    if !isFirst then
      let _ ← expectSymbol ","
    if endsTuple endWords (← current) then return ([], false)
    else
      let item ← match extent with
        | .simple => primary fuel
        | .withoutChoice => disjunction fuel
        | .full => expression fuel
      if (← current).isSymbol "," then
        let (others, _) ← tupleItems fuel extent endWords false
        return (item :: others, true)
      else return ([item], false)

def listItems : Nat → Bool → Parse (List Expr)
  | 0, _ => tooDeep
  | fuel + 1, isFirst => do
    if ← skipSymbol "]" then return []
    else
      if !isFirst then
        let _ ← expectSymbol ","
      if ← skipSymbol "]" then return []
      else
        let item ← expression fuel
        return item :: (← listItems fuel false)

def dictEntries : Nat → Bool → Parse (List Expr)
  | 0, _ => tooDeep
  | fuel + 1, isFirst => do
    if ← skipSymbol "\x7d" then return []
    else
      if !isFirst then
        let _ ← expectSymbol ","
      if ← skipSymbol "\x7d" then return []
      else
        let key ← expression fuel
        let _ ← expectSymbol ":"
        let value ← expression fuel
        return .entry key value :: (← dictEntries fuel false)

def trailers : Nat → Expr → Parse Expr
  | 0, _ => tooDeep
  | fuel + 1, body => do
    match ← current with
    | .symbol "." =>
      let _ ← advance
      match ← advance with
      | .name s => trailers fuel (.member body s)
      | .integer n => trailers fuel (.subscript body (.constant (.int n)))
      | _ => fail "expected name or number"
    | .symbol "[" =>
      let _ ← advance
      let parts ← subscripts fuel true
      match parts with
      | [index] => trailers fuel (.subscript body index)
      | _ => trailers fuel (.subscript body (.tuple parts))
    | .symbol "(" =>
      let _ ← advance
      trailers fuel (.call body (← arguments fuel []))
    | _ => return body

def subscripts : Nat → Bool → Parse (List Expr)
  | 0, _ => tooDeep
  | fuel + 1, isFirst => do
    if ← skipSymbol "]" then return []
    else
      if !isFirst then
        let _ ← expectSymbol ","
      let part ← subscriptPart fuel
      return part :: (← subscripts fuel false)

def subscriptPart : Nat → Parse Expr
  | 0 => tooDeep
  | fuel + 1 => do
    let start ← if (← current).isSymbol ":" then pure Expr.absent else expression fuel
    if ← skipSymbol ":" then
      let stop ← bound fuel
      let step ← if ← skipSymbol ":" then bound fuel else pure .absent
      return .slice start stop step
    else return start

/-- A bound of a slice, which may be left out. -/
def bound : Nat → Parse Expr
  | 0 => tooDeep
  | fuel + 1 => do
    let t ← current
    if t.isSymbol ":" || t.isSymbol "]" || t.isSymbol "," then return .absent else expression fuel

def arguments : Nat → List Expr → Parse (List Expr)
  | 0, _ => tooDeep
  | fuel + 1, earlier => do
    if ← skipSymbol ")" then return []
    else
      if !earlier.isEmpty then
        let _ ← expectSymbol ","
      if ← skipSymbol ")" then return []
      else
        let argument ←
          if ← skipSymbol "*" then pure (Expr.spread (← expression fuel))
          else if ← skipSymbol "**" then pure (Expr.spreadNamed (← expression fuel))
          else
            match ← current with
            | .name s =>
              if (← look).isSymbol "=" then
                let _ ← advance
                let _ ← advance
                pure (Expr.named s (← expression fuel))
              else expression fuel
            | _ => expression fuel
        if mayFollow earlier argument then
          return argument :: (← arguments fuel (argument :: earlier))
        else fail "invalid syntax for function call expression"

def filters : Nat → Expr → Parse Expr
  | 0, _ => tooDeep
  | fuel + 1, body => do
    match ← current with
    | .symbol "|" =>
      let _ ← advance
      let name ← dottedName fuel (← expectName)
      let given ← if ← skipSymbol "(" then arguments fuel [] else pure []
      filters fuel (.filter body name given)
    | .symbol "(" =>
      let _ ← advance
      filters fuel (.call body (← arguments fuel []))
    | .name "is" =>
      let _ ← advance
      let negated ← skipName "not"
      let name ← dottedName fuel (← expectName)
      let t ← current
      let given ←
        if ← skipSymbol "(" then arguments fuel []
        else if startsArgument t then
          if t.isName "is" then fail "You cannot chain multiple tests with is"
          else
            let argument ← primary fuel
            pure [← trailers fuel argument]
        else pure []
      let answer := Expr.test body name given
      filters fuel (if negated then .unary .not answer else answer)
    | _ => return body

end

/-- What an error says about an unknown tag or an end that came too early. -/
def unclosed {α : Type} (tag : Option String) (endings : List (List String)) : Parse α := do
  let looking := endings.head?.map fun words => " or ".intercalate (words.map quoted)
  let start := match tag with
    | none => "Unexpected end of template."
    | some name => "Encountered unknown tag " ++ quoted name ++ "."
  let middle := match looking with
    | none => []
    | some words =>
      if tag.any fun name => endings.any (·.contains name) then
        ["You probably made a nesting mistake. Jinja is expecting this tag, but currently looking for " ++
          words ++ "."]
      else ["Jinja was looking for the following tags: " ++ words ++ "."]
  let finish := match (← get).tags with
    | innermost :: _ =>
      ["The innermost block that needs to be closed is " ++ quoted innermost ++ "."]
    | [] => []
  fail (" ".intercalate (start :: middle ++ finish))

def pushEnding (words : List String) : Parse Unit :=
  modify fun reader => { reader with endings := words :: reader.endings }

def popEnding : Parse Unit := modify fun reader => { reader with endings := reader.endings.tail }

def pushTag (name : String) : Parse Unit :=
  modify fun reader => { reader with tags := name :: reader.tags }

def popTag : Parse Unit := modify fun reader => { reader with tags := reader.tags.tail }

def reservedWords : List String := ["true", "false", "none", "True", "False", "None"]

/-- What an expression is called when it cannot be assigned to. -/
def kindOf : Expr → String
  | .constant _ => "const"
  | .name _ => "name"
  | .list _ => "list"
  | .dict _ => "dict"
  | _ => "tuple"

mutual

def targetOf? : Expr → Option Target
  | .name s => some (.name s)
  | .tuple items => (targetsOf? items).map .tuple
  | _ => none

def targetsOf? : List Expr → Option (List Target)
  | [] => some []
  | e :: rest => do
    let t ← targetOf? e
    let others ← targetsOf? rest
    some (t :: others)

end

def target (fuel : Nat) (endWords : List String) : Parse Target := do
  let e ← tuple fuel .simple endWords false
  match targetOf? e with
  | some t => return t
  | none => fail ("can't assign to " ++ quoted (kindOf e))

def nameTarget : Parse String := do
  let name ← expectName
  if reservedWords.contains name then fail ("can't assign to " ++ quoted "name") else return name

/-- A target that may be a name inside of a collection of names. -/
def innerTarget (fuel : Nat) : Parse Target := do
  if (← look).isSymbol "." then
    let collection ← expectName
    let _ ← advance
    return .inside collection (← expectName)
  else target fuel []

def filterChain : Nat → Bool → Parse Chain
  | 0, _ => tooDeep
  | fuel + 1, inline => do
    let starts ← if inline then pure true else skipSymbol "|"
    if starts then
      let name ← dottedName fuel (← expectName)
      let given ← if ← skipSymbol "(" then arguments fuel [] else pure []
      return (name, given) :: (← filterChain fuel false)
    else return []

def expectBlockEnd : Parse Unit := do
  let _ ← expect "end of statement block" isBlockEnd

def bindings : Nat → Bool → Parse (List (Target × Expr))
  | 0, _ => tooDeep
  | fuel + 1, isFirst => do
    if isBlockEnd (← current) then return []
    else
      if !isFirst then
        let _ ← expectSymbol ","
      let name ← target fuel []
      let _ ← expectSymbol "="
      let e ← expression fuel
      return (name, e) :: (← bindings fuel false)

def printed : Nat → Bool → Parse (List Statement)
  | 0, _ => tooDeep
  | fuel + 1, isFirst => do
    if isBlockEnd (← current) then return []
    else
      if !isFirst then
        let _ ← expectSymbol ","
      let e ← expression fuel
      return .output e :: (← printed fuel false)

def parameters : Nat → Bool → Bool → Parse Parameters
  | 0, _, _ => tooDeep
  | fuel + 1, isFirst, hasDefault => do
    if ← skipSymbol ")" then return []
    else
      if !isFirst then
        let _ ← expectSymbol ","
      let name ← nameTarget
      let value ← if ← skipSymbol "=" then some <$> expression fuel else pure none
      if value.isNone && hasDefault then fail "non-default argument follows default argument"
      return (name, value) :: (← parameters fuel false (hasDefault || value.isSome))

def signature (fuel : Nat) : Parse Parameters := do
  let _ ← expectSymbol "("
  parameters fuel true false

/-- The words that say whether the context is handed over. -/
def contextWords : Parse Bool := do
  let t ← current
  if t.isName "with" || t.isName "without" then
    if (← look).isName "context" then
      let _ ← advance
      let _ ← advance
      return true
    else return false
  else return false

def imported : Nat → Bool → Parse Unit
  | 0, _ => tooDeep
  | fuel + 1, isFirst => do
    if !isFirst then
      let _ ← expectSymbol ","
    match ← current with
    | .name _ =>
      if ← contextWords then return ()
      else
        let name ← nameTarget
        if Text.startsWith name "_" then
          throw (.broken .templateAssertion "names starting with an underline can not be imported")
        if ← skipName "as" then
          let _ ← nameTarget
        if ← contextWords then return ()
        else if (← current).isSymbol "," then imported fuel false
        else return ()
    | _ =>
      let _ ← expectName
      return ()

def loading (fuel : Nat) (tag : String) : Parse (List Statement) := do
  let _ ← advance
  let source ← expression fuel
  match tag with
  | "include" =>
    if (← current).isName "ignore" then
      if (← look).isName "missing" then
        let _ ← advance
        let _ ← advance
    let _ ← contextWords
  | "import" =>
    let _ ← expectWord "as"
    let _ ← nameTarget
    let _ ← contextWords
  | "from" =>
    let _ ← expectWord "import"
    imported fuel true
  | _ => pure ()
  return [.load source]

def isBlankData : Statement → Bool
  | .data s => !s.isEmpty && s.toList.all Text.isBlank
  | _ => false

mutual

/-- Statements up to a block that begins with one of some words, or up to the end. -/
def body : Nat → Option (List String) → Parse (List Statement)
  | 0, _ => tooDeep
  | fuel + 1, endWords => do
    match ← current with
    | .finished => return []
    | .data s =>
      let _ ← advance
      return .data s :: (← body fuel endWords)
    | .variableBegin =>
      let _ ← advance
      let e ← tuple fuel .full [] false
      let _ ← expect "end of print statement" isVariableEnd
      return .output e :: (← body fuel endWords)
    | _ =>
      let _ ← advance
      let t ← current
      if (endWords.getD []).any fun w => t.isName w then return []
      else
        let found ← statement fuel
        expectBlockEnd
        return found ++ (← body fuel endWords)

/-- The statements of a block up to one of its end words, which is left to be read. -/
def inner : Nat → List String → Parse (List Statement)
  | 0, _ => tooDeep
  | fuel + 1, endWords => do
    let _ ← skipSymbol ":"
    expectBlockEnd
    pushEnding endWords
    let found ← body fuel (some endWords)
    popEnding
    match ← current with
    | .finished => unclosed none (endWords :: (← get).endings)
    | _ => return found

def statement : Nat → Parse (List Statement)
  | 0 => tooDeep
  | fuel + 1 => do
    match ← current with
    | .name tag =>
      pushTag tag
      let found ← match tag with
        | "for" => forStatement fuel
        | "if" => do
          let _ ← advance
          pure [← ifStatement fuel]
        | "set" => setStatement fuel
        | "with" => do
          let _ ← advance
          let names ← bindings fuel true
          let statements ← inner fuel ["endwith"]
          let _ ← advance
          pure [Statement.withNames names statements]
        | "filter" => do
          let _ ← advance
          let chain ← filterChain fuel true
          let statements ← inner fuel ["endfilter"]
          let _ ← advance
          pure [Statement.filtered chain statements]
        | "print" => do
          let _ ← advance
          printed fuel true
        | "autoescape" => do
          let _ ← advance
          let setting ← expression fuel
          let statements ← inner fuel ["endautoescape"]
          let _ ← advance
          pure [Statement.escaping setting statements]
        | "block" => blockStatement fuel
        | "macro" => do
          let _ ← advance
          let name ← nameTarget
          let given ← signature fuel
          let statements ← inner fuel ["endmacro"]
          let _ ← advance
          pure [Statement.define name given statements]
        | "call" => do
          let _ ← advance
          let given ← if (← current).isSymbol "(" then signature fuel else pure []
          let e ← expression fuel
          match e with
          | .call _ _ => pure ()
          | _ => fail "expected call"
          let statements ← inner fuel ["endcall"]
          let _ ← advance
          pure [Statement.callWith given e statements]
        | "include" | "import" | "from" | "extends" => loading fuel tag
        | _ => do
          popTag
          unclosed (some tag) (← get).endings
      popTag
      return found
    | _ => fail "tag name expected"

def blockStatement : Nat → Parse (List Statement)
  | 0 => tooDeep
  | fuel + 1 => do
    let _ ← advance
    let name ← expectName
    let _ ← skipName "scoped"
    let isRequired ← skipName "required"
    if (← current).isSymbol "-" then
      fail ("Block names in Jinja have to be valid Python identifiers and may not contain hyphens, " ++
        "use an underscore instead.")
    let statements ← inner fuel ["endblock"]
    let _ ← advance
    if isRequired && !statements.all isBlankData then
      fail "Required blocks can only contain comments or whitespace"
    let _ ← skipName name
    return [.block name isRequired statements]

def forStatement : Nat → Parse (List Statement)
  | 0 => tooDeep
  | fuel + 1 => do
    let _ ← advance
    let names ← target fuel ["in"]
    let _ ← expectWord "in"
    let source ← tuple fuel .withoutChoice ["recursive"] false
    let condition ← if ← skipName "if" then expression fuel else pure .absent
    let isRecursive ← skipName "recursive"
    let statements ← inner fuel ["endfor", "else"]
    let last ← advance
    let otherwise ← if last.isName "endfor" then pure []
      else do
        let found ← inner fuel ["endfor"]
        let _ ← advance
        pure found
    return [.loop names source condition isRecursive statements otherwise]

def ifStatement : Nat → Parse Statement
  | 0 => tooDeep
  | fuel + 1 => do
    let condition ← tuple fuel .withoutChoice [] false
    let statements ← inner fuel ["elif", "else", "endif"]
    let last ← advance
    if last.isName "elif" then return .branch condition statements [← ifStatement fuel]
    else if last.isName "else" then
      let otherwise ← inner fuel ["endif"]
      let _ ← advance
      return .branch condition statements otherwise
    else return .branch condition statements []

def setStatement : Nat → Parse (List Statement)
  | 0 => tooDeep
  | fuel + 1 => do
    let _ ← advance
    let names ← innerTarget fuel
    if ← skipSymbol "=" then return [.assign names (← tuple fuel .full [] false)]
    else
      let chain ← filterChain fuel false
      let statements ← inner fuel ["endset"]
      let _ ← advance
      return [.capture names chain statements]

end

end Reader

def startOf (tokens : Tokens) : Except Error Reader :=
  match tokens.found, tokens.fault with
  | (t, line) :: rest, fault => .ok ⟨⟨t, line, rest, fault⟩, [], []⟩
  | [], some e => .error e
  | [], none => .ok ⟨⟨.finished, 1, [], none⟩, [], []⟩

def depthFor (tokens : Tokens) : Nat := 40 * (tokens.found.length + 2)

def parse (text : String) : Except Error (List Statement) := do
  let tokens := tokensIn .root text
  let reader ← startOf tokens
  let (found, _) ← (Reader.body (depthFor tokens) none).run reader
  return found

def isFinished : Token → Bool
  | .finished => true
  | _ => false

def parseExpression (text : String) : Except Error Expr := do
  let tokens := tokensIn .variable text
  let reader ← startOf tokens
  let (e, _) ← (Reader.expression (depthFor tokens)).run reader
  return e

/-- Reads an expression behind which nothing follows. A fault in its very first token is reported
with its line. -/
def parseWhole (text : String) : Except Error Expr := do
  let tokens := tokensIn .variable text
  let reader ← match startOf tokens with
    | .ok reader => .ok reader
    | .error (.broken fault message) => .error (.broken fault (message ++ "\n  line 1"))
    | .error e => .error e
  let (e, reader) ← (Reader.expression (depthFor tokens)).run reader
  if isFinished reader.stream.current then return e
  else throw (syntaxFault "chunk after expression")

end Orchestration.Template
