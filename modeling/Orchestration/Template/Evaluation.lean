import Orchestration.Template.Reader
import Orchestration.Template.Stream

/-!
What expressions mean.

Expressions are evaluated in a scope: the names that the template itself has given, what surrounds
it, and the functions that are always there.
-/

namespace Orchestration.Template

namespace Scope

def empty : Scope := ⟨[], false, false⟩

def constant : Scope := ⟨[], false, true⟩

def give (scope : Scope) (name : String) (item : Item) : Scope :=
  { scope with names := (name, item) :: scope.names }

end Scope

/-- Functions that are always there, besides those of all expressions. -/
def globals : List String := ["range", "dict", "lipsum", "cycler", "joiner", "namespace"]

namespace Eval

/-- Says that an expression depends on more than constants. -/
def noConstant : Error := .broken .templateRun "no constant"

def find (scope : Scope) (name : String) : Eval Item := do
  if scope.isConstant then throw noConstant
  match scope.names.find? (·.1 == name) with
  | some (_, item) => return item
  | none =>
    match ← part? (← get).context (.str name) with
    | some item => return item
    | none =>
      if Functions.names.contains name || globals.contains name then return .function name
      else return .undefined .undefined (Text.quoted name ++ " is undefined")

def maxRange : Nat := 100000

def makeRange (given : Given) : Eval Item := do
  match given.named with
  | (word, _) :: _ =>
    throw (Given.wrong ("safe_range() got an unexpected keyword argument " ++ Text.quoted word))
  | [] => pure ()
  let n := given.positional.length
  if n == 0 then throw (Given.wrong "range expected at least 1 argument, got 0")
  if n > 3 then throw (Given.wrong ("range expected at most 3 arguments, got " ++ toString n))
  let bounds ← given.positional.mapM fun item => do
    match item.int? with
    | some n => return n
    | none => throw (← noWhole item)
  let (start, stop, step) := match bounds with
    | [stop] => ((0 : Int), stop, (1 : Int))
    | [start, stop] => (start, stop, 1)
    | [start, stop, step] => (start, stop, step)
    | _ => (0, 0, 1)
  if step == 0 then throw (.broken .value "range() arg 3 must not be zero")
  if Item.count start stop step > maxRange then
    throw (.broken .overflow "Range too big. The sandbox blocks ranges larger than MAX_RANGE (100000).")
  return .range start stop step

def makeEntries (given : Given) : Eval (List (Value × Item)) := do
  match given.positional with
  | _ :: _ :: _ =>
    throw (Given.wrong ("dict expected at most 1 argument, got " ++ toString given.positional.length))
  | items => updated [] items.head? given.named

def callGlobal (name : String) (given : Given) : Eval Item := do
  match name with
  | "range" => makeRange given
  | "dict" => mapping (← makeEntries given)
  | "namespace" => return .object (← make (.names (← makeEntries given)))
  | "cycler" =>
    match given.named with
    | (word, _) :: _ =>
      throw (Given.wrong ("Cycler.__init__() got an unexpected keyword argument " ++ Text.quoted word))
    | [] =>
      if given.positional.isEmpty then
        throw (.broken .running "at least one item has to be provided")
      return .object (← make (.cycler given.positional 0))
  | "joiner" =>
    let signature : Signature := ⟨"Joiner.__init__", ["self"], ["sep"]⟩
    let found ← settle (signature.bind (.null :: given.positional) given.named)
    return .object (← make (.joiner (((found[1]?).join).getD (.str ", ")) false))
  | _ => throw (notAvailable name)

def notCallable (item : Item) : Eval Error := do
  return .broken .type ("'" ++ (← typeName item) ++ "' object is not callable")

def callItem (item : Item) (given : Given) : Eval Item := do
  match item with
  | .undefined fault text => throw (.broken fault text)
  | .function name =>
    if Functions.takesSurroundings name && Functions.names.contains name then
      callFunction name ⟨(← get).context :: given.positional, given.named⟩
    else if Functions.names.contains name then callFunction name given
    else callGlobal name given
  | .method receiver name => callMethod receiver name given
  | .object ref =>
    match (← get).cells[ref]? with
    | some (.joiner separator isUsed) =>
      put ref (.joiner separator true)
      return if isUsed then separator else .str ""
    | some (.routine _) | some (.loop _) => call item given
    | _ => throw (← notCallable item)
  | _ => throw (← notCallable item)

def noFilterFound (name : String) : Error :=
  .broken .templateRun ("No filter named " ++ Text.quoted name ++ " found.")

def noTestFound (name : String) : Error :=
  .broken .templateRun ("No test named " ++ Text.quoted name ++ " found.")

def contextFilters : List String :=
  ["map", "random", "reject", "rejectattr", "select", "selectattr"]

def filterBy (scope : Scope) (name : String) (item : Item) (given : Given) : Eval Item :=
  if !filterNames.contains name then throw (noFilterFound name)
  else if scope.isConstant && contextFilters.contains name then throw noConstant
  else applyFilter name item given

def mustSpread (stars kind : String) (item : Item) : Eval Error := do
  return .broken .type ("jinja2.sandbox.SandboxedEnvironment.call() argument after " ++ stars ++
    " must be " ++ kind ++ ", not " ++ (← typeName item))

def spreadItems (item : Item) : Eval (List Item) := do
  match item with
  | .cursor _ | .undefined .. => items item
  | _ =>
    match (← get).parts? item with
    | some parts => return parts
    | none => throw (← mustSpread "*" "an iterable" item)

def spreadEntries (item : Item) : Eval (List (String × Item)) := do
  match item with
  | .map ref => ((← get).entriesAt ref).mapM fun (k, v) => do
      match k with
      | .str word => return (word, v)
      | _ => throw (.broken .type "keywords must be strings")
  | _ => throw (← mustSpread "**" "a mapping" item)

end Eval

/-- How many digits a number may have to be written down. -/
def maxDigits : Nat := 4300

mutual

/-- Why a value cannot be a constant of a template, whose constants are kept in writing. -/
def unwritten? : Value → Option Error
  | .float x =>
    match Number.parts x with
    | .nan => some (.broken .unboundName "name 'nan' is not defined")
    | .infinite _ => some (.broken .unboundName "name 'inf' is not defined")
    | .finite .. => none
  | .int n =>
    if n.natAbs < Nat.pow 10 maxDigits then none
    else some (.broken .value ("Exceeds the limit (4300 digits) for integer string conversion; " ++
      "use sys.set_int_max_str_digits() to increase the limit"))
  | .list items | .tuple items => unwrittenIn? items
  | .map entries => unwrittenPair? entries
  | _ => none

def unwrittenIn? : List Value → Option Error
  | [] => none
  | v :: rest => (unwritten? v).or (unwrittenIn? rest)

def unwrittenPair? : List (Value × Value) → Option Error
  | [] => none
  | (k, v) :: rest => ((unwritten? k).or (unwritten? v)).or (unwrittenPair? rest)

end

open Eval in
mutual

def Expr.eval (scope : Scope) : Expr → Eval Item
  | .constant v => do
    match unwritten? v with
    | some e => if scope.isConstant then ofValue v else throw e
    | none => ofValue v
  | .name s => find scope s
  | .list items => do Eval.list (← Expr.evalItems scope items)
  | .tuple items => do return .tuple (← Expr.evalItems scope items)
  | .dict entries => do mapping (← Expr.evalEntries scope [] entries)
  | .member body word => do Eval.member (← body.eval scope) word
  | .subscript body (.slice start stop step) => do
    let item ← body.eval scope
    Eval.slice item (← start.eval scope) (← stop.eval scope) (← step.eval scope)
  | .subscript body index => do
    let item ← body.eval scope
    Eval.subscript item (← index.eval scope)
  | .call body arguments => do
    if scope.isConstant then throw noConstant
    let item ← body.eval scope
    callItem item (← Expr.evalArguments scope arguments)
  | .filter body word arguments => do
    let item ← body.eval scope
    filterBy scope word item (← Expr.evalArguments scope arguments)
  | .test body word arguments => do
    let item ← body.eval scope
    let given ← Expr.evalArguments scope arguments
    if testNames.contains word then return .bool (← Eval.test filterNames word item given)
    else throw (noTestFound word)
  | .unary .not body => do return .bool !(← truthy (← body.eval scope))
  | .unary .negative body => do
    ofValue (← settle (Value.negate (← plain (← require (← body.eval scope)))))
  | .unary .positive body => do
    ofValue (← settle (Value.affirm (← plain (← require (← body.eval scope)))))
  | .binary .and left right => do
    let item ← left.eval scope
    if ← truthy item then right.eval scope else return item
  | .binary .or left right => do
    let item ← left.eval scope
    if ← truthy item then return item else right.eval scope
  | .binary operator left right => do
    let item ← left.eval scope
    calculate operator item (← right.eval scope)
  | .concat parts => do return .str (String.join (← (← Expr.evalItems scope parts).mapM text))
  | .compare first operands => do Expr.evalChain scope (← first.eval scope) operands
  | .choice line condition yes no => do
    if ← truthy (← condition.eval scope) then yes.eval scope
    else
      match no with
      | .absent => return .undefined .undefined ("the inline if-expression on line " ++ toString line ++
          " evaluated to false and no else section was defined.")
      | _ => no.eval scope
  | .entry _ value => value.eval scope
  | .operand _ body | .named _ body | .spread body | .spreadNamed body => body.eval scope
  | .slice _ _ _ | .absent => return .null

def Expr.evalItems (scope : Scope) : List Expr → Eval (List Item)
  | [] => return []
  | e :: rest => do
    let item ← e.eval scope
    return item :: (← Expr.evalItems scope rest)

/-- The entries of a mapping; the last one with a key wins. -/
def Expr.evalEntries (scope : Scope) (found : List (Value × Item)) :
    List Expr → Eval (List (Value × Item))
  | [] => return found
  | .entry left value :: rest => do
    let k ← left.eval scope
    let item ← value.eval scope
    Expr.evalEntries scope (Store.withEntry found (← key k) item) rest
  | _ :: rest => Expr.evalEntries scope found rest

def Expr.evalArguments (scope : Scope) : List Expr → Eval Given
  | [] => return ⟨[], []⟩
  | .named word body :: rest => do
    let item ← body.eval scope
    let others ← Expr.evalArguments scope rest
    return { others with named := (word, item) :: others.named }
  | .spread body :: rest => do
    let found ← spreadItems (← body.eval scope)
    let others ← Expr.evalArguments scope rest
    return { others with positional := found ++ others.positional }
  | .spreadNamed body :: rest => do
    let found ← spreadEntries (← body.eval scope)
    let others ← Expr.evalArguments scope rest
    return { others with named := found ++ others.named }
  | e :: rest => do
    let item ← e.eval scope
    let others ← Expr.evalArguments scope rest
    return { others with positional := item :: others.positional }

/-- A chain of comparisons, up to the first that does not hold. -/
def Expr.evalChain (scope : Scope) (left : Item) : List Expr → Eval Item
  | [] => return left
  | .operand symbol body :: rest => do
    let right ← body.eval scope
    let holds ← comparesBy symbol left right
    match rest with
    | [] => return .bool holds
    | _ => if holds then Expr.evalChain scope right rest else return .bool false
  | _ :: rest => Expr.evalChain scope left rest

end

end Orchestration.Template
