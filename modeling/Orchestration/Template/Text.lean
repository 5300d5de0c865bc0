import Orchestration.Expression.Delimiter
import Orchestration.Template.Writing

/-!
Templates in text.

An expression that is the whole of a text stands for its value; otherwise the text of the value
takes its place. What comes out is looked at again, as long as there are expressions in it. Raw
blocks are set aside before that, and put back at the end.
-/

namespace Orchestration.Template

def failed (expression : String) (e : Error) : Error :=
  .evaluation (some .template) ("Unable to evaluate expression '" ++ expression ++ "'. " ++ e.line)

open Eval

def within {α : Type} (expression : String) (work : Eval α) : Eval α :=
  tryCatch work fun e => throw (failed expression e)

/-- The item that an expression gives, once all of it is computed. -/
def settled (item : Item) : Eval Item := do
  match item with
  | .cursor ref => if (← typeName item) == "generator" then list (← drain ref) else return item
  | _ => return item

mutual

/-- Evaluates the expressions of a text, and those that come out of them. -/
def expand : Nat → String → Eval Item
  | 0, _ => throw tooDeep
  | depth + 1, text =>
    if (Language.blocks text).isEmpty then
      let found := Language.template.expressions text
      expandEach depth (found.length > 1) found text
    else within text do
      let written ← render text
      expand depth written

def expandEach (depth : Nat) (isOneOfMany : Bool) : List String → String → Eval Item
  | [], written => return .str written
  | expression :: rest, written => do
    let item ← within expression do
      let item ← settled (← answer (Language.template.strip expression))
      match item with
      | .atom (.str s) => expand depth s
      | _ => return item
    match item with
    | .undefined .. => expandEach depth isOneOfMany rest written
    | _ =>
      if isOneOfMany || written.length > expression.length then
        let part ← within expression (text item)
        expandEach depth isOneOfMany rest (Text.replace written expression part)
      else return item

end

/-- How often what comes out of expressions can be expressions again. -/
def maxDepth : Nat := 150

def maxNesting : Nat := 1000

def placeOf (i : Nat) : String := "\x7b" ++ toString i ++ "\x7d"

def surroundings (data : Node) : Work Item := do
  let whole ← Work.ofNode data
  let mut entries := [(Value.str "__vars", whole)]
  match data with
  | .map _ _ =>
    for name in ["__state", "__current_task", "__current_item"] do
      entries := entries ++ [(.str name, ← Work.ofNode ((data.field? name).getD Node.null))]
  | _ => pure ()
  return .map (← Work.make (.map 0 entries))

def onData {α : Type} (data : Node) (work : Eval α) : Except Error α :=
  let whole : Work α := do
    let context ← surroundings data
    modify fun store => { store with context := context }
    work.run (engine maxNesting)
  whole.run' Store.empty

def evaluate (text : String) (data : Node) : Except Error Node := onData data do
  let raw := (Language.rawBlock.texts text).zipIdx
  let cut := raw.foldl (fun text (block, i) => Text.replace text block (placeOf i)) text
  match ← expand maxDepth cut with
  | .atom (.str written) =>
    let left := Language.template.expressions written
    if !left.isEmpty then
      throw (.evaluation (some .template) ("There are unresolved variables: " ++
        ", ".intercalate (left.map Language.template.strip)))
    else if raw.isEmpty then return .atom (.str written)
    else
      let whole := raw.foldl (fun text (block, i) => Text.replace text (placeOf i) block) written
      return .atom (.str (← render whole))
  | item => toData item

/-- What is wrong with a text: first as a whole, then expression by expression. -/
def faults (text : String) : List (String × String) :=
  let whole := match parse text with
    | .ok _ => []
    | .error e => [(text, e.message)]
  (Language.template.expressions text).foldl (fun found expression =>
    if found.any (·.1 == expression) then found
    else
      match parseExpression (Language.template.strip expression) with
      | .ok _ => found
      | .error e => found ++ [(expression, e.message)]) whole

end Orchestration.Template
