import Orchestration.Command
import Orchestration.Status

/-!
Signals: what the machines are told.

A signal says which status a workflow, a task or an action has reached. Where that is not enough to
decide, its scope says what holds around it: whether something else is active, and what is left to
do.
-/

namespace Orchestration

inductive Subject where
  | workflow
  | task
  | action
  deriving DecidableEq, Repr

inductive Activity where
  | active
  | dormant
  deriving DecidableEq, Repr

inductive Outlook where
  | incomplete
  | completed
  | paused
  | canceled
  | failed
  deriving DecidableEq, Repr

inductive Scope where
  | plain
  | workflow (activity : Activity)
  | settled
  | progress (activity : Activity) (outlook : Outlook)
  | items (activity : Activity) (outlook : Outlook)
  deriving DecidableEq, Repr

inductive Signal where
  | about (subject : Subject) (status : Status) (scope : Scope)
  /-- A task has failed, but something follows it. -/
  | remediated (scope : Scope)
  | command (c : Command)
  | unknown (name : String)
  deriving DecidableEq, Repr

namespace Subject

def text : Subject → String
  | .workflow => "workflow"
  | .task => "task"
  | .action => "action"

end Subject

namespace Activity

def text : Activity → String
  | .active => "active"
  | .dormant => "dormant"

def ofBool (active : Bool) : Activity := if active then .active else .dormant

end Activity

namespace Outlook

def text : Outlook → String
  | .incomplete => "incomplete"
  | .completed => "completed"
  | .paused => "paused"
  | .canceled => "canceled"
  | .failed => "failed"

end Outlook

namespace Scope

def text : Scope → String
  | .plain => ""
  | .workflow activity => "_workflow_" ++ activity.text
  | .settled => "_workflow_completed"
  | .progress activity outlook => "_workflow_" ++ activity.text ++ "_" ++ outlook.text
  | .items activity outlook => "_task_" ++ activity.text ++ "_items_" ++ outlook.text

end Scope

namespace Signal

def name : Signal → String
  | .about subject status scope => subject.text ++ "_" ++ status.text ++ scope.text
  | .remediated scope => "task_remediated" ++ scope.text
  | .command c => "task_" ++ c.name ++ "_requested"
  | .unknown name => name

def within (signal : Signal) (scope : Scope) : Signal :=
  match signal with
  | .about subject status .plain => .about subject status scope
  | .remediated .plain => .remediated scope
  | other => .unknown (other.name ++ scope.text)

def withOutlook (signal : Signal) (outlook : Outlook) : Signal :=
  match signal with
  | .about subject status (.workflow activity) => .about subject status (.progress activity outlook)
  | .remediated (.workflow activity) => .remediated (.progress activity outlook)
  | other => .unknown (other.name ++ "_" ++ outlook.text)

/-! ### The signals that machines know -/

def withScopes (subject : Subject) (status : Status) (scopes : List Scope) : List Signal :=
  scopes.map (.about subject status ·)

def workflowStops : List Scope :=
  [.plain, .items .active .incomplete, .items .dormant .incomplete, .workflow .active, .workflow .dormant]

def workflowSignals : List Signal :=
  withScopes .workflow .requested [.plain] ++
  withScopes .workflow .scheduled [.plain] ++
  withScopes .workflow .delayed [.plain] ++
  withScopes .workflow .running [.plain, .settled] ++
  withScopes .workflow .pausing workflowStops ++
  withScopes .workflow .paused workflowStops ++
  withScopes .workflow .resuming [.plain, .settled] ++
  withScopes .workflow .succeeded [.plain] ++
  withScopes .workflow .failed [.plain] ++
  withScopes .workflow .canceling workflowStops ++
  withScopes .workflow .canceled workflowStops

def taskStops : List Scope := [.plain, .workflow .active, .workflow .dormant]

def taskProgress : List Scope :=
  [.plain,
   .progress .active .incomplete, .progress .active .completed, .progress .active .paused,
   .progress .active .canceled, .progress .dormant .incomplete, .progress .dormant .completed,
   .progress .dormant .paused, .progress .dormant .canceled]

def taskSignals : List Signal :=
  withScopes .task .requested [.plain] ++
  withScopes .task .scheduled [.plain] ++
  withScopes .task .delayed [.plain] ++
  withScopes .task .running [.plain] ++
  withScopes .task .pending taskStops ++
  withScopes .task .pausing [.plain] ++
  withScopes .task .paused taskStops ++
  withScopes .task .resuming [.plain] ++
  withScopes .task .succeeded taskProgress ++
  withScopes .task .failed taskStops ++
  taskProgress.map .remediated ++
  withScopes .task .canceling [.plain] ++
  withScopes .task .canceled taskStops ++
  withScopes .task .retrying taskStops

/-- The signals of tasks that depend on the other tasks of the workflow. -/
def conditionalSignals : List Signal :=
  [.about .task .pending .plain, .about .task .paused .plain, .about .task .succeeded .plain,
   .about .task .failed .plain, .remediated .plain, .about .task .canceled .plain,
   .about .task .retrying .plain]

def itemScopes : List Scope :=
  [.plain,
   .items .active .incomplete, .items .dormant .incomplete, .items .dormant .completed,
   .items .dormant .paused, .items .dormant .canceled, .items .dormant .failed]

def actionSignals : List Signal :=
  withScopes .action .requested [.plain] ++
  withScopes .action .scheduled [.plain] ++
  withScopes .action .delayed [.plain] ++
  withScopes .action .running [.plain] ++
  withScopes .action .pending itemScopes ++
  withScopes .action .pausing [.plain] ++
  withScopes .action .paused itemScopes ++
  withScopes .action .resuming [.plain] ++
  withScopes .action .succeeded itemScopes ++
  withScopes .action .failed itemScopes ++
  withScopes .action .expired itemScopes ++
  withScopes .action .abandoned itemScopes ++
  withScopes .action .canceling [.plain] ++
  withScopes .action .canceled itemScopes

def commandSignals : List Signal :=
  [.command .continue, .command .fail, .command .noop, .command .retry]

def known : List Signal := workflowSignals ++ taskSignals ++ actionSignals ++ commandSignals

def ofName (name : String) : Signal := (known.find? (·.name == name)).getD (.unknown name)

end Signal

end Orchestration
