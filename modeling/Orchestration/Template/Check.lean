import Orchestration.Template.Evaluation

/-!
What is wrong with a template before it is filled in.

Filters and tests have to exist. Inside of a choice or a branch that only counts once they are
applied, since the choice may be there to avoid them. A loop keeps the name `loop` for itself.
-/

namespace Orchestration.Template

def noFilterNamed (name : String) : Error :=
  .broken .templateAssertion ("No filter named " ++ Text.quoted name ++ ".")

def noTestNamed (name : String) : Error :=
  .broken .templateAssertion ("No test named " ++ Text.quoted name ++ ".")

mutual

/-- The first filter or test of an expression that does not exist; `soft` inside of a choice. -/
def Expr.fault? (soft : Bool) : Expr → Option Error
  | .filter body word arguments =>
    if !soft && !filterNames.contains word then some (noFilterNamed word)
    else (body.fault? soft).or (Expr.faultIn? soft arguments)
  | .test body word arguments =>
    if !soft && !testNames.contains word then some (noTestNamed word)
    else (body.fault? soft).or (Expr.faultIn? soft arguments)
  | .choice _ condition yes no =>
    ((condition.fault? true).or (yes.fault? true)).or (no.fault? true)
  | .list items | .tuple items | .dict items | .concat items => Expr.faultIn? soft items
  | .entry a b | .subscript a b | .binary _ a b => (a.fault? soft).or (b.fault? soft)
  | .member body _ | .unary _ body | .operand _ body | .named _ body | .spread body | .spreadNamed body =>
    body.fault? soft
  | .slice a b c => ((a.fault? soft).or (b.fault? soft)).or (c.fault? soft)
  | .call body items | .compare body items => (body.fault? soft).or (Expr.faultIn? soft items)
  | .constant _ | .name _ | .absent => none

def Expr.faultIn? (soft : Bool) : List Expr → Option Error
  | [] => none
  | e :: rest => (e.fault? soft).or (Expr.faultIn? soft rest)

end

/-- The first fault of some filters, looked at from the last one that is applied. -/
def chainFault? (filters : Chain) : Option Error :=
  (filters.reverse.findSome? fun (name, _) =>
    if filterNames.contains name then none else some (noFilterNamed name)).or
    (filters.findSome? fun (_, arguments) => Expr.faultIn? false arguments)

def parametersFault? (parameters : Parameters) : Option Error :=
  parameters.findSome? fun (_, other) => other.bind (Expr.fault? false)

mutual

def Target.gives (word : String) : Target → Bool
  | .name s => s == word
  | .tuple parts => Target.givesIn word parts
  | .inside _ _ => false

def Target.givesIn (word : String) : List Target → Bool
  | [] => false
  | t :: rest => t.gives word || Target.givesIn word rest

end

mutual

def Statement.gives (word : String) : Statement → Bool
  | .assign target _ => target.gives word
  | .capture target _ body => target.gives word || Statement.givesIn word body
  | .loop target _ _ _ body otherwise =>
    target.gives word || Statement.givesIn word body || Statement.givesIn word otherwise
  | .branch _ body otherwise => Statement.givesIn word body || Statement.givesIn word otherwise
  | .withNames _ body | .filtered _ body | .escaping _ body | .block _ _ body | .define _ _ body
  | .callWith _ _ body => Statement.givesIn word body
  | .data _ | .output _ | .load _ => false

def Statement.givesIn (word : String) : List Statement → Bool
  | [] => false
  | s :: rest => s.gives word || Statement.givesIn word rest

end

def loopAssigned : Error :=
  .broken .templateAssertion "Can't assign to special loop variable in for-loop"

mutual

def Statement.fault? (soft : Bool) : Statement → Option Error
  | .data _ => none
  | .output e | .assign _ e | .load e => e.fault? soft
  | .branch condition body otherwise =>
    ((condition.fault? true).or (Statement.faultIn? true body)).or (Statement.faultIn? true otherwise)
  | .loop target source condition isRecursive body otherwise =>
    if (condition.fault? false).isSome then condition.fault? false
    else if target.gives "loop" || Statement.givesIn "loop" body || Statement.givesIn "loop" otherwise then
      some loopAssigned
    else
      let inner := (Statement.faultIn? false body).or (Statement.faultIn? false otherwise)
      if isRecursive then inner.or (source.fault? soft) else (source.fault? soft).or inner
  | .capture _ filters body | .filtered filters body =>
    (Statement.faultIn? false body).or (chainFault? filters)
  | .withNames bindings body =>
    (bindings.findSome? fun (_, e) => e.fault? soft).or (Statement.faultIn? false body)
  | .escaping setting body => (setting.fault? false).or (Statement.faultIn? false body)
  | .block _ _ body => Statement.faultIn? false body
  | .define _ parameters body => (parametersFault? parameters).or (Statement.faultIn? false body)
  | .callWith parameters call body =>
    ((parametersFault? parameters).or (Statement.faultIn? false body)).or (call.fault? soft)

def Statement.faultIn? (soft : Bool) : List Statement → Option Error
  | [] => none
  | s :: rest => (s.fault? soft).or (Statement.faultIn? soft rest)

end

end Orchestration.Template
