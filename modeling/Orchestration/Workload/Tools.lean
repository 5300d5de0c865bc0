import Orchestration.Context.Current
import Orchestration.Document.Reader
import Orchestration.Schema.Merge
import Orchestration.Spec.Basic
import Orchestration.Value.Copy
import Orchestration.Value.Escape
import Orchestration.Value.Merge
import Orchestration.Value.Record
import Orchestration.Workload.Expressions

/-!
The tools of which the engine is made, each put to use once or as many times as is asked.
-/

namespace Orchestration.Workload

/-! ### Mappings and parameters -/

/-- A mapping with some keys, each of which leads on to a number. -/
def nested (n : Nat) : Value :=
  .fields ((List.range n).map fun i => ("k" ++ toString i, .fields [("x", .int 1)]))

def lookups (n : Nat) : Except Error (List Value) := do
  let merged ← Value.merge true (nested n) (nested n)
  let one := Value.fields [("a", .int 1)]
  let found ← (List.range n).mapM fun i => Value.getPath false merged (.str ("k" ++ toString i ++ ".x"))
  .ok ([.int (merged.asMap?.getD []).length, ← Value.merge true one .null, ← Value.merge true .null one] ++ found ++
    [← Value.getPath false merged (.str "nosuch.x"), refused "type" (Value.getPath true one (.str "a.b")),
     refused "key" (Value.getPath true one (.str "b"))])

/-- Parameters of all kinds in one line, in blocks of nine. -/
def parameterLine (blocks : Nat) : String :=
  let kinds := ["\"hello\"", "42", "3.14", "true", "false", "null", "[1,2,3]", "<% ctx().x %>",
    "\x7b\x7b ctx().y \x7d\x7d"]
  " ".intercalate ((List.replicate blocks kinds).flatten.zipIdx.map fun (v, i) => "k" ++ toString i ++ "=" ++ v)

def parameters (n : Nat) : List Value :=
  let line := Value.str (parameterLine (n / 9 + 1))
  [Spec.parametersOf true line, Spec.parametersOf false line, Spec.parametersOf true (.str "")]

/-! ### Schemas -/

def objectSchema : Value :=
  .fields [("type", .str "object"), ("properties", .fields [("a", .fields [("type", .str "string")])]),
    ("required", .list [.str "a"]), ("patternProperties", .fields [("^x", .empty)]), ("minProperties", .int 1),
    ("maxProperties", .int 5)]

def arraySchema : Value :=
  .fields [("type", .str "array"), ("items", .fields [("type", .str "string")]), ("minItems", .int 1),
    ("maxItems", .int 3), ("uniqueItems", .bool true)]

/-- Schemas are merged with their like, with blank ones and with none. -/
def schemas : Except Error (List Value) := do
  let blank := Value.fields [("type", .str "object")]
  let merged ← [(objectSchema, objectSchema), (arraySchema, arraySchema), (.null, .null), (.null, blank),
    (blank, .null), (objectSchema, .null), (.null, objectSchema), (blank, blank), (objectSchema, blank),
    (blank, objectSchema)].mapM fun (left, right) => Schema.merge true left right
  .ok (merged ++ [refused "incompat" (Schema.merge true objectSchema arraySchema),
    refused "incompat2" (Schema.merge true objectSchema (.fields [("type", .str "string")]))])

/-! ### Moments, texts and records -/

/-- What is found when a value is looked at as a moment: a text is matched, a moment is one. -/
def momentFound (v : Value) : Value :=
  match v with
  | .str _ => if Calendar.Notation.names v then .object "Match" else .null
  | v => .bool (Calendar.Notation.names v)

def moments : Except Error (List Value) := do
  let newYear := Value.str "2021-01-01T00:00:00Z"
  let moment := Value.moment (← Calendar.Notation.read newYear.text)
  let later := Value.str "2021-01-01T00:00:00.123456+01:00"
  let written ← [(newYear, true), (newYear, false), (later, true), (moment, true)].mapM fun (v, whole) => do
    .ok (Value.str (← Calendar.Notation.format v whole whole))
  .ok ([newYear, .str "2021-01-01T00:00:00.000", later, moment].map momentFound ++ written)

def stringTools : Except Error (List Value) := do
  let number := Value.int 123
  .ok [← (Value.str "a\\nb").unescape, (Value.str "abc").asText false, number.asText false, number.asText true,
    (Value.str "abc").charset]

def documents : Except Error (List Value) := do
  let lines := (List.range 6).map fun i => "k" ++ toString i ++ ": " ++ toString i
  .ok [← Document.load (.str ("\n".intercalate lines)), refused "dup" (Document.load (.str "a: 1\na: 2"))]

/-- A record that is written down and read back into a new one, which keeps what cannot be
written. -/
def restored (record : Entries) : Except Error Value := do
  let kept := record.filter fun (_, v) => !v.isKept
  .ok (.map (kept ++ (← Value.readRecord (← Value.writeRecord record))))

def records : Except Error (List Value) := do
  let thing := Value.object "object"
  let moment := Value.moment (← Calendar.Notation.read "2021-01-01T00:00:00Z")
  .ok [← restored [(.str "s", .str "x"), (.str "n", .int 1), (.str "lst", .list [.int 1, .int 2]), (.str "d", moment),
    (.str "_skip", thing)], (Value.fields [("x", thing)]).copy]

def currents : Except Error (List Value) := do
  let one := Value.fields [("a", .int 1)]
  let task := [("id", Value.str "t"), ("route", .int 0)]
  .ok [← Context.setTask one (.fields (task ++ [("result", .int 1)])), ← Context.setTask .null (.fields task),
    ← Context.setItem one (.fields [("k", .int 1)]), ← Context.setItem .null (.int 1),
    refused "notask" (Context.setTask one .null)]

def reports : List Value :=
  [Expression.report (.str Language.query.name) (.str "<% 1 %>") "x" (.str "a") (.str "b"),
   Expression.report .null (.str "x") "plain message" .null .null, .str Kind.version]

def tools (n : Nat) : Except Error Value := do
  .ok (.list ((← lookups n) ++ parameters n ++ (← schemas) ++ (← moments) ++ (← stringTools) ++ (← documents) ++
    (← records) ++ (← currents) ++ reports))

end Orchestration.Workload
