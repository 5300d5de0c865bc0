import Orchestration.Expression.Reference
import Orchestration.Query.Text
import Orchestration.Template.Text

/-!
Expressions of either language, in text and in everything that holds text.

A statement is a value with expressions in it. Lists and mappings are evaluated part by part, keys
included. A text belongs to the first language that finds an expression in it.
-/

namespace Orchestration

/-- What evaluates the expressions in a text, once a language has found some there. -/
class Engine where
  evaluate : Language → String → Node → Except Error Node

variable [Engine]

namespace Language

def notText : Error := .refused .value "Text to be evaluated is not typeof string."

def notMapping : Error := .refused .value "Provided data is not typeof dict."

def textOf (v : Value) : Except Error String :=
  match v with
  | .str s => .ok s
  | _ => .error notText

def evaluate (language : Language) (text : Value) (data : Node) : Except Error Node := do
  let s ← textOf text
  if data.truthy && !data.isMap then throw notMapping
  Engine.evaluate language s data

/-- What is wrong with the expressions of a text, as pairs of an expression and a message. -/
def faults (language : Language) (text : Value) : Except Error (List (String × String)) := do
  let s ← textOf text
  match language with
  | .template => .ok (Template.faults s)
  | .query => .ok (Query.faults s)

def ofText (text : String) : List Language := all.filter (·.hasExpressions text)

end Language

namespace Expression

structure Complaint where
  language : Option Language
  expression : String
  message : String

def Complaint.toValue (c : Complaint) : Value :=
  .fields [("type", (c.language.map fun l => Value.str l.name).getD .null), ("expression", .str c.expression),
    ("message", .str c.message)]

def report (type expression : Value) (message : String) (specPath schemaPath : Value) : Value :=
  .fields ([("type", type), ("expression", expression), ("message", .str message)] ++
    [("spec_path", specPath), ("schema_path", schemaPath)].filter (·.2.truthy))

def hasExpressions (text : String) : Bool := !(Language.ofText text).isEmpty

def complaintsIn (language : Language) (text : String) : List Complaint :=
  let found := match language with
    | .template => Template.faults text
    | .query => Query.faults text
  found.map fun (expression, message) => ⟨some language, expression, message⟩

def textComplaints (text : String) : List Complaint :=
  match Language.ofText text with
  | [] => []
  | [language] => complaintsIn language text
  | _ => [⟨none, text, "Expression with multiple types is not supported."⟩]

mutual

def validate : Value → List Complaint
  | .map entries => validateEntries entries
  | .list items => validateItems items
  | .str s => textComplaints s
  | _ => []

def validateItems : List Value → List Complaint
  | [] => []
  | v :: rest => validate v ++ validateItems rest

def validateEntries : List (Value × Value) → List Complaint
  | [] => []
  | (k, v) :: rest => validate k ++ validate v ++ validateEntries rest

end

structure Use where
  language : Language
  statement : String
  name : String
  deriving DecidableEq

def textUses (text : String) : List Use :=
  Language.all.flatMap fun language =>
    (language.references text).flatMap fun reference =>
      (Reference.names reference).map fun name => ⟨language, text, name⟩

def arrange (uses : List Use) : List Use :=
  ((uses.filter (!·.name.isEmpty)).eraseDups).mergeSort fun a b =>
    Value.compareText a.name b.name != .gt

mutual

/-- The variables that a statement uses, sorted by name, each once. -/
def uses : Value → List Use
  | .map entries => arrange (usesInEntries entries)
  | .list items => arrange (usesInItems items)
  | .str s => arrange (textUses s)
  | _ => []

def usesInItems : List Value → List Use
  | [] => []
  | v :: rest => uses v ++ usesInItems rest

def usesInEntries : List (Value × Value) → List Use
  | [] => []
  | (k, v) :: rest => uses k ++ uses v ++ usesInEntries rest

end

def evaluateText (text : String) (data : Node) : Except Error Node :=
  match Language.ofText text with
  | [] => .ok (.atom (.str text))
  | language :: _ => language.evaluate (.str text) data

def keyOf (n : Node) : Except Error Value :=
  let v := n.toValue
  if v.hashable then .ok v else .error v.unhashable

mutual

def evaluate (data : Node) : Value → Except Error Node
  | .map entries => do .ok (.map 0 (← evaluateEntries data [] entries))
  | .list items => do .ok (.list (← evaluateItems data items))
  | .str s => evaluateText s data
  | v => .ok (Node.ofValue v)

def evaluateItems (data : Node) : List Value → Except Error (List Node)
  | [] => .ok []
  | v :: rest => do
    let n ← evaluate data v
    .ok (n :: (← evaluateItems data rest))

def evaluateEntries (data : Node) (found : List (Value × Node)) :
    List (Value × Value) → Except Error (List (Value × Node))
  | [] => .ok found
  | (k, v) :: rest => do
    let key ← evaluate data k
    let n ← evaluate data v
    evaluateEntries data (Node.put found (← keyOf key) n) rest

end

end Expression

end Orchestration
