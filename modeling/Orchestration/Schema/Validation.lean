import Orchestration.Schema.Types
import Orchestration.Value.Order

/-!
Whether a value is as a schema says.

The keywords of a schema are looked at in their order, and each gives its complaints. A complaint
knows the place in the value and the place in the schema.
-/

namespace Orchestration.Schema

inductive Step where
  | index (n : Nat)
  | key (name : String)

namespace Step

/-- The text of a path, or nothing for the whole value. -/
def pathText (steps : List Step) : String :=
  steps.foldl (fun path step => match step with
    | .index n => path ++ "[" ++ toString n ++ "]"
    | .key name => if path.isEmpty then name else path ++ "." ++ name) ""

end Step

structure Complaint where
  message : String
  path : List Step
  schemaPath : List Step

namespace Complaint

def within (c : Complaint) (path schemaPath : List Step) : Complaint :=
  { c with path := path ++ c.path, schemaPath := schemaPath ++ c.schemaPath }

end Complaint

/-- Truth values are no numbers here. -/
def hasType (type : String) (v : Value) : Bool :=
  match type, v with
  | "array", .list _ => true
  | "boolean", .bool _ => true
  | "integer", .int _ => true
  | "null", .null => true
  | "number", .int _ => true
  | "number", .float _ => true
  | "object", .map _ => true
  | "string", .str _ => true
  | _, _ => false

def here (message : String) : List Complaint := [⟨message, [], []⟩]

def demand (holds : Bool) (message : String) : List Complaint := if holds then [] else here message

def keyText (key : Value) : Except Error String :=
  match key with
  | .str s => .ok s
  | _ => .error (.broken .type "expected string or bytes-like object")

/-- Whether two items of a list are the same. A truth value beside something that is no key is not
the same as a number. -/
def isUnique (items : List Value) : Bool :=
  let strictly := !items.all Value.hashable
  let rec distinct : List Value → Bool
    | [] => true
    | v :: rest => !rest.any (fun w => v == w && !(strictly && differInKind v w)) && distinct rest
  distinct items
where
  differInKind (v w : Value) : Bool :=
    match v, w with
    | .bool _, .bool _ => false
    | .bool _, _ | _, .bool _ => true
    | _, _ => false

def extras (schema : Value) (entries : Entries) : Except Error (List Value) :=
  let patterns := (match schema.field "patternProperties" with
    | .map found => Entries.keys found
    | _ => []).map fun (p : Value) => patternOf p.text
  (Entries.keys entries).filterM fun key =>
    if (schema.field "properties").hasField key.text && key.isStr then .ok false
    else if patterns.isEmpty then .ok true
    else do
      let name ← keyText key
      .ok (!patterns.any (·.matchesSomewhere name))

def listed (vs : List Value) : String := ", ".intercalate (vs.map Value.shown)

def extrasMessage (schema : Value) (found : List Value) : Except Error String :=
  match schema.field "patternProperties" with
  | .map patterns => do
    let verb := if found.length == 1 then "does" else "do"
    .ok (listed (← Value.sort found) ++ " " ++ verb ++ " not match any of the regexes: " ++
      listed (← Value.sort (Entries.keys patterns)))
  | _ =>
    let verb := if found.length == 1 then "was" else "were"
    .ok ("Additional properties are not allowed (" ++ listed found ++ " " ++ verb ++ " unexpected)")

def atLeast (bound : Value) (n : Int) : Bool :=
  (Value.compares .greaterOrSame (.int n) bound).toOption.getD true

def atMost (bound : Value) (n : Int) : Bool :=
  (Value.compares .lessOrSame (.int n) bound).toOption.getD true

def plainKeyword (schema : Value) (keyword : String) (said v : Value) :
    Except Error (List Complaint) :=
  match keyword, v with
  | "type", _ => .ok (demand (hasType said.text v) (v.shown ++ " is not of type " ++ said.shown))
  | "enum", _ =>
    .ok (demand (match said with
      | .list choices => choices.any (· == v)
      | _ => true) (v.shown ++ " is not one of " ++ said.shown))
  | "minLength", .str s => .ok (demand (atLeast said s.length) (v.shown ++ " is too short"))
  | "pattern", .str s =>
    .ok (demand ((patternOf said.text).matchesSomewhere s) (v.shown ++ " does not match " ++ said.shown))
  | "minimum", _ =>
    if hasType "number" v then do
      .ok (demand (!(← Value.compares .less v said)) (v.shown ++ " is less than the minimum of " ++ said.shown))
    else .ok []
  | "minItems", .list items => .ok (demand (atLeast said items.length) (v.shown ++ " is too short"))
  | "uniqueItems", .list items =>
    .ok (demand (!said.truthy || isUnique items) (v.shown ++ " has non-unique elements"))
  | "minProperties", .map entries =>
    .ok (demand (atLeast said entries.length) (v.shown ++ " does not have enough properties"))
  | "maxProperties", .map entries =>
    .ok (demand (atMost said entries.length) (v.shown ++ " has too many properties"))
  | "required", .map entries =>
    match said with
    | .list names => .ok (names.flatMap fun name =>
        demand (Entries.has entries name) (name.shown ++ " is a required property"))
    | _ => .ok []
  | "additionalProperties", .map entries =>
    if said.truthy then .ok []
    else do
      let found ← extras schema entries
      if found.isEmpty then .ok [] else do .ok (here (← extrasMessage schema found))
  | _, _ => .ok []

mutual

def complaints : Value → Value → Except Error (List Complaint)
  | .map entries, v => keywords (.map entries) v entries
  | _, _ => .ok []

def keywords (schema v : Value) : List (Value × Value) → Except Error (List Complaint)
  | [] => .ok []
  | (k, said) :: rest => do
    let found ← match k.text, said with
      | "properties", .map properties => ofProperties v properties
      | "patternProperties", .map patterns => ofPatterns v patterns
      | "items", items =>
        match v with
        | .list vs => do
          let found ← vs.zipIdx.mapM fun (item, i) => do
            .ok ((← complaints items item).map fun c => c.within [.index i] [])
          .ok found.flatten
        | _ => .ok []
      | "anyOf", .list choices => do
        let valid ← validUnder v choices
        .ok (demand (!valid.isEmpty) (v.shown ++ " is not valid under any of the given schemas"))
      | "oneOf", .list choices => do
        match ← validUnder v choices with
        | [] => .ok (here (v.shown ++ " is not valid under any of the given schemas"))
        | [_] => .ok []
        | first :: more =>
          .ok (here (v.shown ++ " is valid under each of " ++ listed (more ++ [first])))
      | keyword, said => plainKeyword schema keyword said v
    let found := found.map fun c => c.within [] [.key k.text]
    .ok (found ++ (← keywords schema v rest))

def ofProperties (v : Value) : List (Value × Value) → Except Error (List Complaint)
  | [] => .ok []
  | (name, schema) :: rest => do
    let found ← match v.field? name.text with
      | some part => do
        .ok ((← complaints schema part).map fun c => c.within [.key name.text] [.key name.text])
      | none => .ok []
    .ok (found ++ (← ofProperties v rest))

def ofPatterns (v : Value) : List (Value × Value) → Except Error (List Complaint)
  | [] => .ok []
  | (text, schema) :: rest => do
    let entries := match v with
      | .map entries => entries
      | _ => []
    let found ← entries.mapM fun (key, part) => do
      let name ← keyText key
      if (patternOf text.text).matchesSomewhere name then
        .ok ((← complaints schema part).map fun c => c.within [.key name] [.key text.text])
      else .ok []
    .ok (found.flatten ++ (← ofPatterns v rest))

def validUnder (v : Value) : List Value → Except Error (List Value)
  | [] => .ok []
  | schema :: rest => do
    let found ← complaints schema v
    let more ← validUnder v rest
    .ok (if found.isEmpty then schema :: more else more)

end

end Orchestration.Schema
