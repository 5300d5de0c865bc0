import Orchestration.Machine.Task
import Orchestration.Machine.Workflow
import Orchestration.Workload.Expressions

/-!
The events that report a status, the texts of errors, and the changes of status that are allowed.
-/

namespace Orchestration.Workload

def eventNames (s : Status) : List Value :=
  [Event.workflow s, Event.task (some "t") (some 0) s, Event.action s .null .null,
   Event.item (.int 0) s .null .null].map fun e => .str e.signal.name

def commandNames : List Value :=
  [Command.continue, Command.retry, Command.noop, Command.fail].map fun c => .str (Event.command c).signal.name

def errors : List Error :=
  [.undefinedVariable "v", .hiddenVariable "v", .unknownTask "t", .unknownTransition "a" "b",
   .ambiguousTransition "a" "b", .wrongEventType "T" "e", .wrongEvent "e", .wrongStatus "s", .statusTransition "a" "b",
   .taskEvent "s" "e", .workflowEvent "s" "e", .notStaged "t", .inspection (.fields [("syntax", .list [])]),
   .stillActive, .cannotRerun [("t", "0"), ("u", "1")], .unreachableJoin "t" "0", .noProvider "x",
   .grammar none "x", .evaluation none "x", .schemaDefinition "x", .schemaMismatch "x", .context "x", .logEntry "x",
   .rehearsal "x"]

def isStatus (v : Value) : Value := .bool (Status.read v).toOption.isSome

abbrev Rows := Status → Option Machine.Row

def goes (rows : Rows) (old new : Status) : Except Error Value := do
  .ok (.bool (← Machine.canGo rows old new))

/-- A status that is not known can neither be left nor be reached. -/
def unknowns (rows : Rows) (word : String) : List Value :=
  [refused "inv1" (goes rows (.unknown word) .running), refused "inv2" (goes rows .running (.unknown word))]

def changes : Except Error (List Value) := do
  let task : Rows := Machine.Task.row?
  let workflow : Rows := Machine.Workflow.row?
  .ok [isStatus (.str Status.running.text), isStatus (.str "bogus"), isStatus .null,
    ← goes task .requested .running, ← goes task .succeeded .running, ← goes task .missing .missing,
    ← goes workflow .requested .running, ← goes workflow .succeeded .running, ← goes workflow .running .missing]

def events (n : Nat) : Except Error Value := do
  let named :=
    (List.range n).flatMap fun i => eventNames ((Status.all[i % Status.all.length]?).getD .unset)
  let wrong := refused "bad-status" (do .ok (← Status.read (.str "bogus")).toValue)
  let unknown := ["bogus", "other"].flatMap fun word =>
    unknowns Machine.Task.row? word ++ unknowns Machine.Workflow.row? word
  .ok (.list (named ++ commandNames ++ [wrong] ++ (errors.map fun e => .str e.message) ++ (← changes) ++ unknown))

end Orchestration.Workload
