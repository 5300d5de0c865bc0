import Orchestration.Error
import Orchestration.Value.Copy

/-!
The current task and the current item of a context.

They are put into a copy of the context under hidden names, where expressions find them.
-/

namespace Orchestration.Context

def notMapping : Error := .refused .type "The context is not type of dict."

def copyOf (context : Value) : Entries :=
  match context.copy with
  | .map entries => if context.truthy then entries else []
  | _ => []

def requireMapping (context : Value) : Except Error Unit :=
  if context.truthy && !context.isMap then .error notMapping else .ok ()

/-- What a context says about a task: where it is, and its result if there is one. -/
def taskEntry (task : Entries) : Value :=
  let place := [("id", (Entries.getStr? task "id").getD .null), ("route", (Entries.getStr? task "route").getD .null)]
  match Entries.getStr? task "result" with
  | some result => .fields (place ++ [("result", result)])
  | none => .fields place

def setTask (context task : Value) : Except Error Value := do
  requireMapping context
  if !task.truthy then throw (.refused .value "The task is not set.")
  match task with
  | .map entries =>
    .ok (.map (Entries.insertStr (copyOf context) "__current_task" (taskEntry entries)))
  | _ => throw (.refused .type "The task is not type of dict.")

def setItem (context item : Value) : Except Error Value := do
  requireMapping context
  .ok (.map (Entries.insertStr (copyOf context) "__current_item" item))

end Orchestration.Context
