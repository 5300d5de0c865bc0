import Orchestration.Template.Check
import Orchestration.Template.Folding

/-!
Writing templates out, statement by statement.

A name that is given inside of a loop is forgotten after each round. What is written is kept in
pieces until the end; a filter may leave a piece that is no text, which only shows then.
-/

namespace Orchestration.Template

abbrev Output := Array Item

namespace Eval

def wholeText (out : Output) : Eval String := do
  match out.toList.zipIdx.find? fun (item, _) => item.text?.isNone with
  | some (item, i) =>
    throw (.broken .type ("sequence item " ++ toString i ++ ": expected str instance, " ++
      (← typeName item) ++ " found"))
  | none => return String.join (out.toList.filterMap Item.text?)

def unpacked (count : Nat) (item : Item) : Eval (List Item) := do
  let found ← match item with
    | .cursor _ => items item
    | .undefined fault text => throw (.broken fault text)
    | _ =>
      match (← get).parts? item with
      | some parts => pure parts
      | none =>
        throw (.broken .type ("cannot unpack non-iterable " ++ (← typeName item) ++ " object"))
  if found.length < count then
    throw (.broken .value ("not enough values to unpack (expected " ++ toString count ++ ", got " ++
      toString found.length ++ ")"))
  else if found.length > count then
    throw (.broken .value ("too many values to unpack (expected " ++ toString count ++ ")"))
  else return found

def giveInside (collection item : Item) (name : String) : Eval Unit := do
  let refused : Error := .broken .templateRun "cannot assign attribute on non-namespace object"
  match ← require collection with
  | .object ref =>
    match (← get).cells[ref]? with
    | some (.names entries) => put ref (.names (Store.withEntry entries (.str name) item))
    | _ => throw refused
  | _ => throw refused

end Eval

open Eval

mutual

def Target.assign (scope : Scope) (item : Item) : Target → Eval Scope
  | .name s => return scope.give s item
  | .tuple parts => do Target.assignAll scope (← unpacked parts.length item) parts
  | .inside collection s => do
    giveInside (← find scope collection) item s
    return scope

def Target.assignAll (scope : Scope) (items : List Item) : List Target → Eval Scope
  | [] => return scope
  | t :: rest => do
    let scope ← t.assign scope (items.headD .null)
    Target.assignAll scope items.tail rest

end

namespace Eval

def filterText (scope : Scope) (filters : Chain) (text : String) : Eval Item :=
  filters.foldlM (fun item (name, arguments) => do
    filterBy scope name item (← Expr.evalArguments scope arguments)) (Item.str text)

def holds (target : Target) (condition : Expr) (scope : Scope) (item : Item) : Eval Bool := do
  let inner ← target.assign scope item
  truthy (← condition.eval inner)

def enter (l : Loop) : Eval Ref := do
  let cursor ← iterate l.source
  match l.condition with
  | .absent => make (.loop { l with cursor := cursor })
  | condition =>
    let kept ← make (.cursor "generator" (.restricted cursor l.target condition l.scope))
    make (.loop { l with source := .cursor kept, cursor := kept })

def step (ref : Ref) : Eval (Option Item) := do
  match (← get).cells[ref]? with
  | some (.loop l) =>
    let found ← match l.ahead with
      | some item => pure (some item)
      | none => next l.cursor
    match found with
    | none => return none
    | some item =>
      put ref (.loop { l with
        ahead := none, index := l.index + 1, previous := l.current, current := some item })
      return some item
  | _ => return none

def rounds (ref : Ref) (target : Target) (scope : Scope) (write : Scope → Output → Eval Output) :
    Nat → Bool → Output → Eval (Output × Bool)
  | 0, _, _ => throw tooDeep
  | fuel + 1, any, out => do
    match ← step ref with
    | none => return (out, any)
    | some item =>
      let inner ← target.assign (scope.give "loop" (.object ref)) item
      rounds ref target scope write fuel true (← write inner out)

end Eval

mutual

/-- Writes a statement out, and gives the names behind it. -/
def Statement.write (scope : Scope) (out : Output) : Statement → Eval (Output × Scope)
  | .data s => return (out.push (.str s), scope)
  | .output e => do
    let s ← text (← e.eval scope)
    return (out.push (.str (if scope.escapes then escaped s else s)), scope)
  | .assign target e => do
    let item ← e.eval scope
    return (out, ← target.assign scope item)
  | .branch condition body otherwise => do
    if ← truthy (← condition.eval scope) then Statement.writeAll scope out body
    else Statement.writeAll scope out otherwise
  | .loop target source condition isRecursive body otherwise => do
    let item ← source.eval scope
    let ref ← enter ⟨item, 0, -1, none, none, none, none, none, 0, target, condition, body, otherwise,
      isRecursive, scope⟩
    let start : Output := if isRecursive then #[] else out
    let (written, any) ← rounds ref target scope
      (fun inner out => do return (← Statement.writeAll inner out body).1) maxSteps false start
    let written ← if any then pure written else do
      pure (← Statement.writeAll scope written otherwise).1
    if isRecursive then return (out.push (.str (← wholeText written)), scope)
    else return (written, scope)
  | .capture target filters body => do
    let (written, inner) ← Statement.writeAll scope #[] body
    let item ← filterText inner filters (← wholeText written)
    return (out, ← target.assign scope item)
  | .withNames bindings body => do
    let inner ← bindings.foldlM (fun inner (target, e) => do
      Target.assign inner (← e.eval scope) target) scope
    let (out, _) ← Statement.writeAll inner out body
    return (out, scope)
  | .filtered filters body => do
    let (written, inner) ← Statement.writeAll scope #[] body
    return (out.push (← filterText inner filters (← wholeText written)), scope)
  | .escaping setting body => do
    let escapes ← truthy (← setting.eval scope)
    let (out, _) ← Statement.writeAll { scope with escapes := escapes } out body
    return (out, scope)
  | .block name isRequired body => do
    if isRequired then
      throw (.broken .templateRun ("Required block " ++ Text.quoted name ++ " not found"))
    let (out, _) ← Statement.writeAll scope out body
    return (out, scope)
  | .define name parameters body => do
    let ref ← make (.routine ⟨name, parameters, body, scope⟩)
    return (out, scope.give name (.object ref))
  | .callWith parameters (.call body arguments) inner => do
    let ref ← make (.routine ⟨"caller", parameters, inner, scope⟩)
    let item ← body.eval scope
    let given ← Expr.evalArguments scope arguments
    let written ← callItem item { given with named := given.named ++ [("caller", .object ref)] }
    return (out.push written, scope)
  | .callWith _ _ _ => return (out, scope)
  | .load source => do
    let _ ← source.eval scope
    throw (.broken .type "no loader for this environment specified")

def Statement.writeAll (scope : Scope) (out : Output) : List Statement → Eval (Output × Scope)
  | [] => return (out, scope)
  | s :: rest => do
    let (out, scope) ← s.write scope out
    Statement.writeAll scope out rest

end

mutual

def Expr.mentions (word : String) : Expr → Bool
  | .name s => s == word
  | .list items | .tuple items | .dict items | .concat items => Expr.mentionedIn word items
  | .entry a b | .subscript a b | .binary _ a b => a.mentions word || b.mentions word
  | .member body _ | .unary _ body | .operand _ body | .named _ body | .spread body | .spreadNamed body =>
    body.mentions word
  | .slice a b c | .choice _ a b c => a.mentions word || b.mentions word || c.mentions word
  | .call body items | .compare body items | .filter body _ items | .test body _ items =>
    body.mentions word || Expr.mentionedIn word items
  | .constant _ | .absent => false

def Expr.mentionedIn (word : String) : List Expr → Bool
  | [] => false
  | e :: rest => e.mentions word || Expr.mentionedIn word rest

end

def Chain.mentions (word : String) (filters : Chain) : Bool :=
  filters.any fun (_, arguments) => Expr.mentionedIn word arguments

mutual

def Statement.mentions (word : String) : Statement → Bool
  | .data _ => false
  | .output e | .assign _ e | .load e => e.mentions word
  | .branch e body otherwise =>
    e.mentions word || Statement.mentionedIn word body || Statement.mentionedIn word otherwise
  | .loop _ source condition _ body otherwise =>
    source.mentions word || condition.mentions word || Statement.mentionedIn word body ||
      Statement.mentionedIn word otherwise
  | .capture _ filters body | .filtered filters body =>
    Chain.mentions word filters || Statement.mentionedIn word body
  | .withNames bindings body =>
    bindings.any (fun (_, e) => e.mentions word) || Statement.mentionedIn word body
  | .escaping e body | .callWith _ e body => e.mentions word || Statement.mentionedIn word body
  | .define _ _ body => Statement.mentionedIn word body
  | .block _ _ _ => false

def Statement.mentionedIn (word : String) : List Statement → Bool
  | [] => false
  | s :: rest => s.mentions word || Statement.mentionedIn word rest

end

namespace Eval

def giveParameters (scope : Scope) : Parameters → List (Option Item) → Eval Scope
  | [], _ => return scope
  | (name, other) :: rest, given => do
    let item ← match (given.head?).join, other with
      | some item, _ => pure item
      | none, some e => e.eval scope
      | none, none =>
        pure (.undefined .undefined ("parameter " ++ Text.quoted name ++ " was not provided"))
    giveParameters (scope.give name item) rest given.tail

/-- Calls a routine. It only takes more than its parameters if it asks for it by name. -/
def callRoutine (ref : Ref) (r : Routine) (given : Given) : Eval Item := do
  let count := r.parameters.length
  let taken := given.positional.take count
  let lacking := (r.parameters.drop taken.length).map (·.1)
  let byName := lacking.map fun word => (given.named.find? (·.1 == word)).map (·.2)
  let named := given.named.filter fun (word, _) => !lacking.contains word
  let asks (word : String) : Bool := Statement.mentionedIn word r.body
  let hasCaller := r.parameters.any (·.1 == "caller")
  let (caller, named) :=
    if asks "caller" && !hasCaller then
      (some (((named.find? (·.1 == "caller")).map (·.2)).getD (.undefined .undefined "No caller defined")),
        named.filter (·.1 != "caller"))
    else (none, named)
  if !asks "kwargs" then
    match named with
    | (word, _) :: _ =>
      throw (.broken .type ("macro " ++ Text.quoted r.name ++
        (if named.any (·.1 == "caller") then " was invoked with two values for the special caller argument." ++
          " This is most likely a bug."
        else " takes no keyword argument " ++ Text.quoted word)))
    | [] => pure ()
  if !asks "varargs" && given.positional.length > count then
    throw (.broken .type ("macro " ++ Text.quoted r.name ++ " takes not more than " ++ toString count ++
      " argument(s)"))
  let scope := r.scope.give r.name (.object ref)
  let scope := match caller with
    | some item => scope.give "caller" item
    | none => scope
  let scope ← if asks "kwargs" then do
      pure (scope.give "kwargs" (← mapping (named.map fun (word, item) => (.str word, item))))
    else pure scope
  let scope :=
    if asks "varargs" then scope.give "varargs" (.tuple (given.positional.drop count)) else scope
  let scope ← giveParameters scope r.parameters (taken.map some ++ byName)
  return .str (← wholeText (← Statement.writeAll scope #[] r.body).1)

def callLoop (l : Loop) (given : Given) : Eval Item := do
  let signature : Signature := ⟨"LoopContext.__call__", ["self", "iterable"], []⟩
  let found ← settle (signature.bind (.null :: given.positional) given.named)
  if !l.isRecursive then
    throw (.broken .type "The loop must have the 'recursive' marker to be enabled.")
  let ref ← enter { l with
    source := ((found[1]?).join).getD .null, index := -1, length := none, ahead := none, previous := none,
    current := none, remembered := none, depth := l.depth + 1 }
  let (written, any) ← rounds ref l.target l.scope
    (fun inner out => do return (← Statement.writeAll inner out l.body).1) maxSteps false #[]
  let written ← if any then pure written else do
    pure (← Statement.writeAll l.scope written l.otherwise).1
  return .str (← wholeText written)

def callWritten (item : Item) (given : Given) : Eval Item := do
  match item with
  | .object ref =>
    match (← get).cells[ref]? with
    | some (.routine r) => callRoutine ref r given
    | some (.loop l) => callLoop l given
    | _ => throw (← notCallable item)
  | _ => throw (← notCallable item)

end Eval

def engine : Nat → Engine
  | 0 => ⟨fun _ => throw tooDeep, fun _ _ => throw tooDeep⟩
  | depth + 1 =>
    let inner := engine depth
    ⟨fun ref => (Eval.advance holds ref).run inner, fun item given => (callWritten item given).run inner⟩

def render (text : String) : Eval String := do
  let statements ← Statement.foldedAll (← settle (parse text))
  match Statement.faultIn? false statements with
  | some e => throw e
  | none => wholeText (← Statement.writeAll Scope.empty #[] statements).1

def answer (text : String) : Eval Item := do
  let e ← (← settle (parseWhole text)).folded
  match e.fault? false with
  | some fault => throw fault
  | none => e.eval Scope.empty

end Orchestration.Template
