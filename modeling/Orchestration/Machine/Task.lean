import Orchestration.Machine.Row

/-!
The machine of tasks.

A task follows its action. If it has items it follows all of them: while an item is active the task
goes on, and what the items have come to decides when none is.
-/

namespace Orchestration.Machine.Task

/-- The last active item reports, and others are paused, canceled, failed, not begun, or all
succeeded. -/
def settle (statuses : List Status)
    (ifPaused ifCanceled ifFailed ifIncomplete ifCompleted : Status) : Row :=
  statuses.flatMap fun s =>
    Row.items .action s .dormant
      [(.paused, ifPaused), (.canceled, ifCanceled), (.failed, ifFailed), (.incomplete, ifIncomplete),
       (.completed, ifCompleted)]

def whileActive (subject : Subject) (status new : Status) : Row :=
  Row.items subject status .active [(.incomplete, new)]

def beforeRunning : List Status :=
  [.running, .pending, .pausing, .paused, .canceling, .canceled, .failed, .expired, .abandoned]

def row? : Status → Option Row
  | .unset => some
      (Row.follow .action [.requested, .scheduled, .delayed, .running, .pending] ++
       [(.command .continue, .succeeded), (.command .noop, .succeeded), (.command .fail, .failed)])
  | .requested => some (Row.follow .action ([.scheduled, .delayed] ++ beforeRunning))
  | .scheduled => some (Row.follow .action ([.delayed] ++ beforeRunning))
  | .delayed => some (Row.follow .action ([.scheduled] ++ beforeRunning))
  | .running => some
      (Row.follow .action
        [.running, .pending, .pausing, .paused, .canceling, .canceled, .failed, .succeeded] ++
       Row.become .failed .action [.expired, .abandoned] ++
       whileActive .action .pending .pausing ++
       whileActive .action .paused .pausing ++
       whileActive .action .canceled .canceling ++
       whileActive .action .succeeded .running ++
       settle [.pending, .paused] .paused .canceled .failed .paused .paused ++
       settle [.canceled] .canceled .canceled .canceled .canceled .canceled ++
       settle [.failed, .expired, .abandoned] .failed .canceled .failed .failed .failed ++
       settle [.succeeded] .paused .canceled .failed .running .succeeded ++
       whileActive .workflow .pausing .pausing ++
       whileActive .workflow .paused .pausing ++
       whileActive .workflow .canceling .canceling ++
       whileActive .workflow .canceled .canceling ++
       Row.items .workflow .pausing .dormant [(.incomplete, .paused)] ++
       Row.items .workflow .paused .dormant [(.incomplete, .paused)] ++
       Row.items .workflow .canceling .dormant [(.incomplete, .canceled)] ++
       Row.items .workflow .canceled .dormant [(.incomplete, .canceled)])
  | .pending => some
      (Row.follow .action [.canceled, .failed, .succeeded] ++
       Row.become .failed .action [.expired, .abandoned])
  | .pausing => some
      (Row.follow .action [.paused, .resuming, .canceling, .canceled, .failed] ++
       Row.become .failed .action [.expired, .abandoned] ++
       settle [.pending, .paused] .paused .canceled .failed .paused .paused ++
       settle [.canceled] .canceled .canceled .canceled .canceled .canceled ++
       settle [.failed, .expired, .abandoned] .failed .canceled .failed .failed .failed ++
       settle [.succeeded] .paused .canceled .failed .paused .succeeded)
  | .paused => some (Row.follow .action [.running, .resuming, .canceling, .canceled])
  | .resuming => some (Row.follow .action [.running, .canceling, .canceled])
  | .retrying => some
      (Row.follow .action [.running, .canceling, .canceled] ++
       Row.become .canceled .workflow [.canceling, .canceled])
  | .canceling => some
      (Row.become .canceled .action [.paused, .canceled] ++
       Row.become .failed .action [.failed, .expired, .abandoned] ++
       settle [.pending, .paused, .canceled, .failed, .expired, .abandoned]
         .canceled .canceled .canceled .canceled .canceled ++
       settle [.succeeded] .canceled .canceled .canceled .canceled .succeeded)
  | .canceled => some []
  | .succeeded => some [(.command .retry, .retrying)]
  | .failed => some [(.command .retry, .retrying)]
  | .expired | .abandoned | .missing | .unknown _ => none

def step (current : Status) (signal : Signal) : Except Error (Option Status) :=
  let current := current.orUnset
  if !current.isKnown then .error (.wrongStatus current.text)
  else
    match row? current with
    | none => .error (.taskEvent current.text signal.name)
    | some row => .ok (row.next? signal)

/-! ### Signals with their scope -/

def itemStatuses : List Status :=
  [.resuming, .pending, .paused, .succeeded, .failed, .expired, .abandoned, .canceled]

/-- What the items of a task have come to, when one of them reports and these are the others. -/
def itemScope (others : List Status) : Scope :=
  let rest : Outlook := if others.all (·.isCompleted) then .completed else .incomplete
  if others.any (·.isActive) then .items .active rest
  else if others.any fun s => s == .pending || s == .paused then .items .dormant .paused
  else if others.any (· == .canceled) then .items .dormant .canceled
  else if others.any (·.isAbended) then .items .dormant .failed
  else .items .dormant rest

/-- What the items of a task have come to, when its workflow is to stop. -/
def stopScope (items : List Status) : Scope :=
  .items (.ofBool (items.any (·.isActive))) (if items.all (·.isCompleted) then .completed else .incomplete)

end Orchestration.Machine.Task
