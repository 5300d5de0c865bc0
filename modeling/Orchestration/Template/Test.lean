import Orchestration.Expression.Call
import Orchestration.Template.Operator

/-!
Tests: the questions that a template can ask about an item with `is`.
-/

namespace Orchestration.Template

/-- Tests that compare two items, each with a symbol and the name that error texts use. -/
def comparingTests : List (String × String × String) :=
  [("==", "==", "eq"), ("eq", "==", "eq"), ("equalto", "==", "eq"), ("!=", "!=", "ne"), ("ne", "!=", "ne"),
   (">", ">", "gt"), ("gt", ">", "gt"), ("greaterthan", ">", "gt"), (">=", ">=", "ge"), ("ge", ">=", "ge"),
   ("<", "<", "lt"), ("lt", "<", "lt"), ("lessthan", "<", "lt"), ("<=", "<=", "le"), ("le", "<=", "le")]

def testNames : List String :=
  ["odd", "even", "divisibleby", "defined", "undefined", "filter", "test", "none", "boolean", "false",
   "true", "integer", "float", "lower", "upper", "string", "mapping", "number", "sequence", "iterable",
   "callable", "sameas", "escaped", "in"] ++ comparingTests.map (·.1)

def testSignature (name : String) : Signature :=
  match name with
  | "divisibleby" => ⟨"test_divisibleby", ["value", "num"], []⟩
  | "sameas" => ⟨"test_sameas", ["value", "other"], []⟩
  | "in" => ⟨"test_in", ["value", "seq"], []⟩
  | "filter" => ⟨"test_filter", ["env", "value"], []⟩
  | "test" => ⟨"test_test", ["env", "value"], []⟩
  | _ => ⟨"test_" ++ name, ["value"], []⟩

namespace Item

def isNumber : Item → Bool
  | .atom (.int _) | .atom (.bool _) | .atom (.float _) => true
  | _ => false

def isSequence : Item → Bool
  | .atom (.str _) | .list _ | .tuple _ | .group _ _ | .map _ | .range .. => true
  | _ => false

/-- Whether two items are one and the same. -/
def isOneWith : Item → Item → Bool
  | .atom v, .atom w => v == w && v.typeName == w.typeName
  | .list r, .list s | .map r, .map s | .cursor r, .cursor s | .object r, .object s => r == s
  | .function f, .function g => f == g
  | _, _ => false

end Item

namespace Eval

def testArguments (name : String) (item : Item) (given : Given) : Except Error (List Item) := do
  match comparingTests.find? (·.1 == name) with
  | some (_, _, word) =>
    Given.between ("_operator." ++ word) word 2 2 ⟨item :: given.positional, given.named⟩
  | none =>
    if name == "callable" then
      return [← Given.single "callable" ⟨item :: given.positional, given.named⟩]
    else
      let signature := testSignature name
      let hidden := if signature.required.head? == some "env" then [Item.null] else []
      let bound ← signature.bind (hidden ++ item :: given.positional) given.named
      return (bound.drop hidden.length).map (·.getD .null)

def remainderIs (item divisor : Item) (rest : Int) : Eval Bool := do
  same (← calculate .mod item divisor) (.int rest)

def isCallable (item : Item) : Eval Bool := do
  match item with
  | .function _ | .method _ _ | .undefined .. => return true
  | .object ref =>
    match (← get).cells[ref]? with
    | some (.loop _) | some (.joiner _ _) | some (.routine _) => return true
    | _ => return false
  | _ => return false

def isIterable (item : Item) : Eval Bool := do
  match ← require item with
  | .cursor _ => return true
  | .object ref =>
    match (← get).cells[ref]? with
    | some (.loop _) => return true
    | _ => return false
  | item => return ((← get).parts? item).isSome

def noTest (name : String) : Error :=
  .broken .templateRun ("No test named " ++ Text.quoted name ++ ".")

def test (filterNames : List String) (name : String) (item : Item) (given : Given) : Eval Bool := do
  if !testNames.contains name then throw (noTest name)
  let arguments ← settle (testArguments name item given)
  let item := arguments.headD .null
  let other := (arguments[1]?).getD .null
  match comparingTests.find? (·.1 == name) with
  | some (_, symbol, _) => comparesBy symbol item other
  | none =>
    match name with
    | "odd" => remainderIs item (.int 2) 1
    | "even" => remainderIs item (.int 2) 0
    | "divisibleby" => remainderIs item other 0
    | "defined" => return !item.isUndefined
    | "undefined" => return item.isUndefined
    | "filter" =>
      let k ← key item
      return filterNames.any fun known => k == .str known
    | "test" =>
      let k ← key item
      return testNames.any fun known => k == .str known
    | "none" => return item.isNull
    | "boolean" => return (match item with
        | .atom (.bool _) => true
        | _ => false)
    | "true" => return (match item with
        | .atom (.bool b) => b
        | _ => false)
    | "false" => return (match item with
        | .atom (.bool b) => !b
        | _ => false)
    | "integer" => return (match item with
        | .atom (.int _) => true
        | _ => false)
    | "float" => return (match item with
        | .atom (.float _) => true
        | _ => false)
    | "number" => return item.isNumber
    | "string" => return item.text?.isSome
    | "mapping" => return (match item with
        | .map _ => true
        | _ => false)
    | "lower" => return Text.isLower (← text item)
    | "upper" => return Text.isUpper (← text item)
    | "sequence" => return item.isSequence
    | "iterable" => isIterable item
    | "callable" => isCallable item
    | "sameas" => return item.isOneWith other
    | "in" => isIn item other
    | _ => return false

end Eval

end Orchestration.Template
