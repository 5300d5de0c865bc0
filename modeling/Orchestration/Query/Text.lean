import Orchestration.Expression.Delimiter
import Orchestration.Query.Evaluation
import Orchestration.Value.Node

/-!
Queries in text.

A query that is the whole of a text stands for its value; otherwise the text of the value takes its
place. A value that is text itself is looked at again.
-/

namespace Orchestration.Query

/-- Whether the quotes around the text of an error are dropped. -/
def dropsQuotes : Error → Bool
  | .refused fault _ | .broken fault _ =>
    [.type, .value, .json, .decoding, .unknownFunction, .unknownMethod, .noMatchingFunction,
      .noMatchingMethod, .queryGrammar, .queryLexical, .noMapping, .ambiguousFunction, .ambiguousMethod].contains fault
  | .unsupportedVersion _ => true
  | _ => false

def failed (expression : String) (e : Error) : Error :=
  .evaluation (some .query) <|
    match e with
    | .refused .key text | .broken .key text =>
      "Unable to resolve key '" ++ Text.trimChars "'" text ++ "' in expression '" ++ expression ++
        "' from context."
    | _ =>
      let text := if dropsQuotes e then Text.trimChars "'" e.message else e.message
      "Unable to evaluate expression '" ++ expression ++ "'. " ++ e.name ++ ": " ++ text

/-- Puts the values of the expressions of a text in their places. What comes out as text is looked
at by `again`. -/
def evaluateEach (again : String → Except Error Value) (scope : Scope) (isOneOfMany : Bool) :
    List String → String → Except Error Value
  | [], text => .ok (.str text)
  | expression :: rest, text => do
    let result ← Except.mapError (failed expression) do
      match ← answer (Language.query.strip expression) scope with
      | .str s => again s
      | v => .ok v
    if isOneOfMany || text.length > expression.length then
      evaluateEach again scope isOneOfMany rest (Text.replace text expression result.text)
    else .ok result

def evaluateText : Nat → String → Scope → Except Error Value
  | 0, _, _ => .error tooDeep
  | depth + 1, text, scope =>
    let found := Language.query.expressions text
    evaluateEach (evaluateText depth · scope) scope (found.length > 1) found text

/-- How often what comes out of queries can be queries again. -/
def maxRounds : Nat := 150

def hiddenNames : List String := ["__state", "__current_task", "__current_item"]

def Scope.around (data : Value) : Except Error Scope :=
  match data with
  | .list _ | .tuple _ => .error (.broken .noAttribute "'tuple' object has no attribute 'get'")
  | _ =>
    let data := if data.truthy then data else Value.empty
    .ok (("$__vars", Term.ofValue data) ::
      hiddenNames.map fun name => ("$" ++ name, Term.ofValue (data.field name)))

def evaluate (text : String) (data : Value) : Except Error Value := do
  evaluateText maxRounds text (← Scope.around data)

def faults (text : String) : List (String × String) :=
  (Language.query.expressions text).filterMap fun expression =>
    match Formula.parse (Language.query.strip expression) with
    | .ok _ => none
    | .error e => some (expression, e.message)

end Orchestration.Query
