import Orchestration.Machine.Row
import Orchestration.Text.Blank

/-!
The machine of workflows.

A workflow answers to its host and to its tasks. It stops at once if no task is active, and
otherwise when the last active task reports; a failed task that nothing follows fails it.
-/

namespace Orchestration.Machine.Workflow

/-- The host asks for a pause or a cancelation. -/
def stops : Row :=
  Row.during .workflow .pausing .pausing .paused ++
  Row.during .workflow .paused .pausing .paused ++
  Row.during .workflow .canceling .canceling .canceled ++
  Row.during .workflow .canceled .canceling .canceled

/-- The host asks for a stop, and no task can be active. -/
def dormantStops : Row :=
  [(.about .workflow .pausing (.workflow .dormant), .paused),
   (.about .workflow .paused (.workflow .dormant), .paused),
   (.about .workflow .canceling (.workflow .dormant), .canceled),
   (.about .workflow .canceled (.workflow .dormant), .canceled)]

/-- The two ways in which a task ends well. -/
def endings : List (Scope → Signal) := [.about .task .succeeded, .remediated]

def ended (activity : Activity) (outcomes : List (Outlook × Status)) : Row :=
  endings.flatMap fun word => Row.progress word activity outcomes

def running : Row :=
  Row.follow .workflow [.failed, .succeeded] ++
  stops ++
  Row.during .task .pending .pausing .paused ++
  Row.become .running .task [.pausing] ++
  Row.during .task .paused .running .paused ++
  ended .active [(.incomplete, .running), (.completed, .running), (.paused, .pausing), (.canceled, .canceling)] ++
  ended .dormant [(.incomplete, .running), (.completed, .succeeded), (.paused, .paused), (.canceled, .canceled)] ++
  Row.during .task .failed .failed .failed ++
  Row.follow .task [.canceling] ++
  Row.during .task .canceled .canceling .canceled

def pausing : Row :=
  Row.follow .workflow [.running, .resuming, .failed] ++
  stops ++
  Row.during .task .pending .pausing .paused ++
  Row.during .task .paused .pausing .paused ++
  ended .active [(.incomplete, .pausing), (.completed, .pausing), (.paused, .pausing)] ++
  [(.about .task .succeeded (.progress .active .canceled), .pausing),
   (.remediated (.progress .active .canceled), .canceling)] ++
  ended .dormant [(.incomplete, .paused), (.completed, .paused), (.paused, .paused), (.canceled, .canceled)] ++
  Row.during .task .failed .failed .failed ++
  Row.follow .task [.canceling] ++
  Row.during .task .canceled .canceling .canceled ++
  Row.during .task .retrying .pausing .paused

def paused : Row :=
  Row.follow .workflow [.running, .resuming, .failed] ++
  [(.about .workflow .running .settled, .succeeded),
   (.about .workflow .resuming .settled, .succeeded),
   (.about .workflow .canceling (.workflow .dormant), .canceled),
   (.about .workflow .canceled (.workflow .dormant), .canceled)] ++
  Row.become .running .task [.running, .resuming]

def resuming : Row :=
  Row.follow .workflow [.running, .failed] ++
  stops ++
  Row.follow .task [.running] ++
  Row.during .task .pending .pausing .paused ++
  ended .active [(.incomplete, .running), (.completed, .running)] ++
  ended .dormant [(.incomplete, .running), (.completed, .succeeded), (.paused, .paused), (.canceled, .canceled)] ++
  Row.during .task .failed .failed .failed ++
  Row.follow .task [.canceling] ++
  Row.during .task .canceled .canceling .canceled

def canceling : Row :=
  Row.follow .workflow [.failed] ++
  Row.during .workflow .canceling .canceling .canceled ++
  Row.during .workflow .canceled .canceling .canceled ++
  Row.during .task .pending .canceling .canceled ++
  Row.during .task .paused .canceling .canceled ++
  ended .active [(.incomplete, .canceling), (.completed, .canceling)] ++
  ended .dormant [(.incomplete, .canceled), (.completed, .canceled), (.paused, .canceled), (.canceled, .canceled)] ++
  Row.during .task .failed .canceling .canceled ++
  Row.during .task .canceled .canceling .canceled ++
  Row.during .task .retrying .canceling .canceled

def row? : Status → Option Row
  | .unset => some (Row.follow .workflow [.requested, .scheduled, .delayed, .running, .failed])
  | .requested =>
    some (Row.follow .workflow [.scheduled, .delayed, .running, .failed] ++ dormantStops)
  | .scheduled => some (Row.follow .workflow [.delayed, .running, .failed] ++ dormantStops)
  | .delayed => some (Row.follow .workflow [.scheduled, .running, .failed] ++ dormantStops)
  | .running => some running
  | .pausing => some pausing
  | .paused => some paused
  | .resuming => some resuming
  | .canceling => some canceling
  | .canceled => some []
  | .succeeded => some (Row.follow .workflow [.failed])
  | .failed => some []
  | .pending | .retrying | .expired | .abandoned | .missing | .unknown _ => none

def step (current : Status) (signal : Signal) : Except Error (Option Status) :=
  match row? current with
  | none => .error (.workflowEvent current.text signal.name)
  | some row => .ok (row.next? signal)

/-! ### Signals with their scope -/

structure Surroundings where
  active : Bool
  follows : Bool
  outlook : Outlook

def isEnding : Signal → Bool
  | .about .task .succeeded _ | .remediated _ => true
  | .unknown name => Text.startsWith name "task_succeeded" || Text.startsWith name "task_remediated"
  | _ => false

def taskSignal (e : Event) (around : Surroundings) : Signal :=
  let signal := if e.status.isAbended && around.follows then .remediated .plain else e.signal
  let signal :=
    if Signal.conditionalSignals.contains signal then
      signal.within (.workflow (.ofBool around.active))
    else signal
  if isEnding signal then signal.withOutlook around.outlook else signal

def requestSignal (e : Event) (active settled : Bool) : Signal :=
  if e.status.isStop then e.signal.within (.workflow (.ofBool active))
  else if settled && (e.status == .running || e.status == .resuming) then e.signal.within .settled
  else e.signal

end Orchestration.Machine.Workflow
