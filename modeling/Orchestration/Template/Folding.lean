import Orchestration.Template.Evaluation

/-!
Constants.

An expression that depends on nothing is computed once, when a template is read, and its value takes
its place. If it cannot be computed, or if its value has no written form, it stays as it is.
-/

namespace Orchestration.Template

namespace Store

/-- The value of an item that has a written form. -/
def constantAt (store : Store) : Nat → Item → Option Value
  | 0, _ => none
  | depth + 1, item =>
    match item with
    | .atom v =>
      match v with
      | .null | .bool _ | .int _ | .float _ | .str _ => some v
      | _ => none
    | .tuple items => (items.mapM (constantAt store depth)).map .tuple
    | .list ref => ((store.listAt ref).mapM (constantAt store depth)).map .list
    | .map ref =>
      ((store.entriesAt ref).mapM fun (entry : Value × Item) =>
        (constantAt store depth entry.2).map fun v => (entry.1, v)).map .map
    | _ => none

end Store

namespace Eval

/-- What an expression gives if it depends on nothing, and the store behind that. -/
def constantItem? (e : Expr) : Eval (Option (Item × Store)) := do
  match ((e.eval Scope.constant).run (← read)).run (← get) with
  | .ok (item, store) => return some (item, store)
  | .error _ => return none

def constant? (e : Expr) : Eval (Option Value) := do
  match ← constantItem? e with
  | some (item, store) => return store.constantAt Store.maxDepth item
  | none => return none

/-- The value of an expression as an expression, or something else if it is not constant. -/
def constantOr (e : Expr) (other : Eval Expr) : Eval Expr := do
  match ← constant? e with
  | some v => return .constant v
  | none => other

end Eval

open Eval

mutual

def Expr.folded : Expr → Eval Expr
  | .constant v => return .constant v
  | .name s => return .name s
  | .absent => return .absent
  | .list items => do return .list (← Expr.foldedAll items)
  | .tuple items => do return .tuple (← Expr.foldedAll items)
  | .dict entries => do return .dict (← Expr.foldedAll entries)
  | .entry key value => do return .entry (← key.folded) (← value.folded)
  | .member body s => constantOr (.member body s) do return .member (← body.folded) s
  | .subscript body index => constantOr (.subscript body index) do
      return .subscript (← body.folded) (← index.folded)
  | .slice start stop step => do return .slice (← start.folded) (← stop.folded) (← step.folded)
  | .call body arguments => do return .call (← body.folded) (← Expr.foldedAll arguments)
  | .filter body s arguments => constantOr (.filter body s arguments) do
      return .filter (← body.folded) s (← Expr.foldedAll arguments)
  | .test body s arguments => constantOr (.test body s arguments) do
      return .test (← body.folded) s (← Expr.foldedAll arguments)
  | .unary operator body =>
    constantOr (.unary operator body) do return .unary operator (← body.folded)
  | .binary operator left right => constantOr (.binary operator left right) do
      return .binary operator (← left.folded) (← right.folded)
  | .concat parts => constantOr (.concat parts) do return .concat (← Expr.foldedAll parts)
  | .compare first operands => constantOr (.compare first operands) do
      return .compare (← first.folded) (← Expr.foldedAll operands)
  | .operand symbol body => do return .operand symbol (← body.folded)
  | .choice line condition yes no => constantOr (.choice line condition yes no) do
      return .choice line (← condition.folded) (← yes.folded) (← no.folded)
  | .named s body => do return .named s (← body.folded)
  | .spread body => do return .spread (← body.folded)
  | .spreadNamed body => do return .spreadNamed (← body.folded)

def Expr.foldedAll : List Expr → Eval (List Expr)
  | [] => return []
  | e :: rest => do
    let e ← e.folded
    return e :: (← Expr.foldedAll rest)

end

def Chain.folded (filters : Chain) : Eval Chain :=
  filters.mapM fun (name, arguments) => do return (name, ← Expr.foldedAll arguments)

def Parameters.folded (parameters : Parameters) : Eval Parameters :=
  parameters.mapM fun (name, other) => do
    match other with
    | some e => return (name, some (← e.folded))
    | none => return (name, none)

/-- An expression that is written out; a constant is text already. -/
def foldedOutput (e : Expr) : Eval Statement := do
  match ← constantItem? e with
  | some (.undefined fault text, _) => throw (.broken fault text)
  | some (item, store) =>
    match store.constantAt Store.maxDepth item with
    | some _ =>
      match store.text item with
      | .ok s => return .data s
      | .error _ => return .output (← e.folded)
    | none => return .output (← e.folded)
  | none => return .output (← e.folded)

mutual

def Statement.folded : Statement → Eval Statement
  | .data s => return .data s
  | .output e => foldedOutput e
  | .branch condition body otherwise => do
    return .branch (← condition.folded) (← Statement.foldedAll body) (← Statement.foldedAll otherwise)
  | .loop target source condition isRecursive body otherwise => do
    let condition ← condition.folded
    let source ← source.folded
    let body ← Statement.foldedAll body
    return .loop target source condition isRecursive body (← Statement.foldedAll otherwise)
  | .assign target e => do return .assign target (← e.folded)
  | .capture target filters body => do
    let body ← Statement.foldedAll body
    return .capture target (← Chain.folded filters) body
  | .withNames bindings body => do
    let bindings ← bindings.mapM fun (target, e) => do return (target, ← e.folded)
    return .withNames bindings (← Statement.foldedAll body)
  | .filtered filters body => do
    let body ← Statement.foldedAll body
    return .filtered (← Chain.folded filters) body
  | .escaping setting body => return .escaping setting body
  | .block name isRequired body => do return .block name isRequired (← Statement.foldedAll body)
  | .define name parameters body => do
    let parameters ← Parameters.folded parameters
    return .define name parameters (← Statement.foldedAll body)
  | .callWith parameters call body => do
    let parameters ← Parameters.folded parameters
    let body ← Statement.foldedAll body
    return .callWith parameters (← call.folded) body
  | .load source => do return .load (← source.folded)

def Statement.foldedAll : List Statement → Eval (List Statement)
  | [] => return []
  | s :: rest => do
    let s ← s.folded
    return s :: (← Statement.foldedAll rest)

end

end Orchestration.Template
