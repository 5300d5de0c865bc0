import Orchestration.Document.Token

/-!
Documents as trees of scalars, sequences and mappings.

A part that has a name can be repeated by its name further on; the tree holds it in both places.
-/

namespace Orchestration.Document

inductive Tree where
  | scalar (tag : Option String) (style : Style) (text : String)
  | sequence (tag : Option String) (items : List Tree)
  | mapping (tag : Option String) (entries : List (Tree × Tree))
  deriving Inhabited

namespace Tree

structure Reader where
  tokens : List Token
  names : List (String × Tree)
  handles : List (String × String)

abbrev Parse := StateT Reader (Except Failure)

def fail {α : Type} : Parse α := throw .arrangement

def current : Parse Token := do return (← get).tokens.headD .streamEnd

def advance : Parse Unit := modify fun r => { r with tokens := r.tokens.tail }

def skip (t : Token) : Parse Bool := do
  if (← current) == t then
    advance
    return true
  else return false

def isAny (found : List Token) : Parse Bool := do return found.contains (← current)

def emptyScalar : Tree := .scalar none .plain ""

def resolveTag (handle ending : String) : Parse String := do
  if handle.isEmpty then return ending
  else
    match (← get).handles.find? (·.1 == handle) with
    | some (_, start) => return start ++ ending
    | none => fail

structure Properties where
  name : Option String
  tag : Option String

def properties : Parse Properties := do
  let readTag : Parse (Option String) := do
    match ← current with
    | .tag handle ending => do
      advance
      return some (← resolveTag handle ending)
    | _ => return none
  let readName : Parse (Option String) := do
    match ← current with
    | .anchor name => do
      advance
      return some name
    | _ => return none
  match ← readName with
  | some name => return ⟨some name, ← readTag⟩
  | none => do
    let tag ← readTag
    return ⟨← readName, tag⟩

def remember (name : Option String) (tree : Tree) : Parse Tree := do
  match name with
  | none => return tree
  | some name =>
    if (← get).names.any (·.1 == name) then throw .reference
    modify fun r => { r with names := (name, tree) :: r.names }
    return tree

mutual

/-- One node: `inBlock` admits blocks, `indentless` a sequence that is not indented. -/
def node (inBlock indentless : Bool) : Nat → Parse Tree
  | 0 => fail
  | fuel + 1 => do
    match ← current with
    | .alias name => do
      advance
      match (← get).names.find? (·.1 == name) with
      | some (_, tree) => return tree
      | none => throw .reference
    | _ => do
      let found ← properties
      let isPlain := found.tag == some "!"
      let tag := if isPlain then none else found.tag
      match ← current with
      | .scalar style text => do
        advance
        remember found.name (.scalar tag (if isPlain then .plain else style) text)
      | .flowSequenceStart => do
        advance
        remember found.name (.sequence tag (← flowItems fuel true))
      | .flowMappingStart => do
        advance
        remember found.name (.mapping tag (← flowEntries fuel true))
      | .blockSequenceStart =>
        if inBlock then do
          advance
          remember found.name (.sequence tag (← blockItems fuel))
        else empty found
      | .blockMappingStart =>
        if inBlock then do
          advance
          remember found.name (.mapping tag (← blockEntries fuel))
        else empty found
      | .blockEntry =>
        if indentless then do remember found.name (.sequence tag (← plainItems fuel))
        else empty found
      | _ => empty found

/-- A node of which only the properties are there. -/
def empty (found : Properties) : Parse Tree := do
  if found.name.isSome || found.tag.isSome then
    remember found.name (.scalar (if found.tag == some "!" then none else found.tag) .plain "")
  else fail

def blockItems : Nat → Parse (List Tree)
  | 0 => fail
  | fuel + 1 => do
    if ← skip .blockEntry then
      let item ← if ← isAny [.blockEntry, .blockEnd] then pure emptyScalar else node true false fuel
      return item :: (← blockItems fuel)
    else if ← skip .blockEnd then return []
    else fail

def plainItems : Nat → Parse (List Tree)
  | 0 => fail
  | fuel + 1 => do
    if ← skip .blockEntry then
      let item ← if ← isAny [.blockEntry, .key, .value, .blockEnd] then pure emptyScalar
        else node true false fuel
      return item :: (← plainItems fuel)
    else return []

def blockEntries : Nat → Parse (List (Tree × Tree))
  | 0 => fail
  | fuel + 1 => do
    if ← skip .key then
      let key ← if ← isAny [.key, .value, .blockEnd] then pure emptyScalar else node true true fuel
      let value ← blockValue fuel
      return (key, value) :: (← blockEntries fuel)
    else if ← skip .blockEnd then return []
    else fail

def blockValue : Nat → Parse Tree
  | 0 => fail
  | fuel + 1 => do
    if ← skip .value then
      if ← isAny [.key, .value, .blockEnd] then return emptyScalar else node true true fuel
    else return emptyScalar

def flowItems : Nat → Bool → Parse (List Tree)
  | 0, _ => fail
  | fuel + 1, isFirst => do
    if ← skip .flowSequenceEnd then return []
    else
      if !isFirst then
        if !(← skip .flowEntry) then fail
      if ← skip .flowSequenceEnd then return []
      else if ← skip .key then
        let key ← if ← isAny [.value, .flowEntry, .flowSequenceEnd] then pure emptyScalar
          else node false false fuel
        let value ← flowValue fuel
        return .mapping none [(key, value)] :: (← flowItems fuel false)
      else
        let item ← node false false fuel
        return item :: (← flowItems fuel false)

def flowEntries : Nat → Bool → Parse (List (Tree × Tree))
  | 0, _ => fail
  | fuel + 1, isFirst => do
    if ← skip .flowMappingEnd then return []
    else
      if !isFirst then
        if !(← skip .flowEntry) then fail
      if ← skip .flowMappingEnd then return []
      else if ← skip .key then
        let key ← if ← isAny [.value, .flowEntry, .flowMappingEnd] then pure emptyScalar
          else node false false fuel
        let value ← flowValue fuel
        return (key, value) :: (← flowEntries fuel false)
      else
        let key ← node false false fuel
        return (key, emptyScalar) :: (← flowEntries fuel false)

def flowValue : Nat → Parse Tree
  | 0 => fail
  | fuel + 1 => do
    if ← skip .value then
      if ← isAny [.flowEntry, .flowSequenceEnd, .flowMappingEnd] then return emptyScalar
      else node false false fuel
    else return emptyScalar

end

def isVersion (words : List String) : Bool := words == ["1.1"] || words == ["1.2"]

def directives : Nat → Parse Bool
  | 0 => return false
  | fuel + 1 => do
    match ← current with
    | .directive "YAML" words => do
      if !isVersion words then fail
      advance
      let _ ← directives fuel
      return true
    | .directive _ [handle, start] => do
      modify fun r => { r with handles := (handle, start) :: r.handles }
      advance
      let _ ← directives fuel
      return true
    | .directive .. => fail
    | _ => return false

def skipEnds : Nat → Parse Unit
  | 0 => return ()
  | fuel + 1 => do if ← skip .documentEnd then skipEnds fuel

def document (fuel : Nat) : Parse (Option Tree) := do
  skipEnds fuel
  if ← isAny [.streamEnd] then return none
  else
    let hasDirectives ← directives fuel
    let isExplicit ← skip .documentStart
    if hasDirectives && !isExplicit then fail
    let tree ←
      if isExplicit && (← isAny [.documentStart, .documentEnd, .streamEnd]) then pure emptyScalar
      else node true false fuel
    skipEnds fuel
    match ← current with
    | .streamEnd => return some tree
    | .documentStart | .directive .. => throw .reference
    | _ => fail

def coreTags : String := "tag:yaml.org,2002:"

def read (text : String) : Except Failure (Option Tree) := do
  let found ← tokens text
  let start : Reader := ⟨found, [], [("!", "!"), ("!!", coreTags)]⟩
  let (tree, _) ← (document (4 * found.length + 8)).run start
  return tree

end Tree

end Orchestration.Document
