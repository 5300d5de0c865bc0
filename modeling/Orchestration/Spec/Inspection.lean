import Orchestration.Spec.Assignment
import Orchestration.Text.Escape

/-!
Inspection: what is wrong with a specification before it is run.

There are four questions. The syntax is right if the specification is as its schema says. The
semantics are right if the tasks make sense together. The expressions are right if they can be read.
The context is right if every variable has been assigned before it is used.
-/

namespace Orchestration.Spec

def syntaxFinding (c : Schema.Complaint) : Except Error Finding :=
  let path (steps : List Schema.Step) : Value :=
    let text := Schema.Step.pathText steps
    if text.isEmpty then .null else .str text
  match Text.unescape c.message with
  | some message => .ok ⟨none, message, path c.path, path c.schemaPath⟩
  | none => .error (.broken .decoding "cannot decode")

def inspectSyntax (s : Spec) : Except Error (List Finding) := do
  let schema ← s.kind.schema true true
  (← Schema.complaints schema s.raw).mapM syntaxFinding

def expressionsWithin : Nat → Spec → Option Place → Except Error (List Finding)
  | 0, _, _ => .error (.broken .recursion "too deep")
  | fuel + 1, s, parent => do
    let found ← (← s.properties).mapM fun (name, p) =>
      let place := Place.property parent name
      match p with
      | .spec part =>
        if part.kind.shape == .plain then expressionsWithin fuel part (some place)
        else inspectParts (expressionsWithin fuel) part place "inspect_expressions"
      | .value v => .ok ((Expression.validate v).map (Finding.ofComplaint place))
      | .method => .ok []
    .ok found.flatten

def inspectExpressions (s : Spec) (parent : Option Place) : Except Error (List Finding) :=
  expressionsWithin Kind.deepest s parent

def findingsValue (findings : List Finding) : Value := .list (findings.map Finding.toValue)

/-- All findings, by question; only the questions with findings are given. -/
def inspect (s : Spec) (known : Value) : Except Error (List (String × List Finding)) := do
  let parent ← match known with
    | .map entries => .ok (if entries.isEmpty then none else some ⟨Place.top, Entries.keys entries⟩)
    | v => if v.truthy then throw (.refused .type "Application context is not type of dict.") else .ok none
  let syntaxFound ← s.inspectSyntax
  let semantics ← s.inspectSemantics none
  let expressions ← s.inspectExpressions none
  let context ← s.inspectContext parent
  let found := [("syntax", syntaxFound), ("semantics", semantics), ("expressions", expressions),
    ("context", context.findings)]
  .ok ((found.filter fun (_, findings) => !findings.isEmpty).map fun (question, findings) =>
    (question, Finding.sort findings))

def inspectionValue (found : List (String × List Finding)) : Value :=
  .fields (found.map fun (question, findings) => (question, findingsValue findings))

/-- Inspects a specification, and refuses it if anything is wrong. -/
def inspectOrRefuse (s : Spec) (known : Value) : Except Error Unit := do
  let found ← s.inspect known
  if !found.isEmpty then throw (.inspection (inspectionValue found))

end Orchestration.Spec
