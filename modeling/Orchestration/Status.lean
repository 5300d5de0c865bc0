/-!
The statuses of workflows, tasks, actions and items, and the groups in which they matter.
-/

namespace Orchestration

inductive Status where
  | requested
  | scheduled
  | delayed
  | running
  | pending
  | pausing
  | paused
  | resuming
  | succeeded
  | failed
  | expired
  | abandoned
  | retrying
  | canceling
  | canceled
  | unset
  | missing
  /-- A word that is no status. -/
  | unknown (word : String)
  deriving DecidableEq, Repr

namespace Status

def text : Status → String
  | .requested => "requested"
  | .scheduled => "scheduled"
  | .delayed => "delayed"
  | .running => "running"
  | .pending => "pending"
  | .pausing => "pausing"
  | .paused => "paused"
  | .resuming => "resuming"
  | .succeeded => "succeeded"
  | .failed => "failed"
  | .expired => "timeout"
  | .abandoned => "abandoned"
  | .retrying => "retrying"
  | .canceling => "canceling"
  | .canceled => "canceled"
  | .unset => "null"
  | .missing => "None"
  | .unknown word => word

def all : List Status :=
  [.requested, .scheduled, .delayed, .running, .pending, .pausing, .paused, .resuming, .succeeded,
   .failed, .expired, .abandoned, .retrying, .canceling, .canceled, .unset]

def ofText? (s : String) : Option Status := all.find? (·.text == s)

def ofText (s : String) : Status := (ofText? s).getD (.unknown s)

def isKnown (s : Status) : Bool := all.contains s

/-- The status of what has none yet. -/
def orUnset (s : Status) : Status := if s = .missing then .unset else s

def starting : List Status := [.requested, .scheduled, .delayed, .running, .pending]

def underWay : List Status := [.requested, .scheduled, .delayed, .running, .resuming, .retrying]

def active : List Status :=
  [.requested, .scheduled, .delayed, .running, .resuming, .pausing, .canceling]

def pause : List Status := [.pausing, .paused]

def cancel : List Status := [.canceling, .canceled]

def abended : List Status := [.failed, .expired, .abandoned]

def completed : List Status := [.succeeded, .failed, .expired, .abandoned, .canceled]

def isStarting (s : Status) : Bool := starting.contains s

def isUnderWay (s : Status) : Bool := underWay.contains s

def isActive (s : Status) : Bool := active.contains s

def isStop (s : Status) : Bool := pause.contains s || cancel.contains s

def isAbended (s : Status) : Bool := abended.contains s

def isCompleted (s : Status) : Bool := completed.contains s

theorem isCompleted_orUnset (s : Status) : s.orUnset.isCompleted = s.isCompleted := by
  unfold orUnset
  split
  case isTrue same => rw [same]; rfl
  case isFalse => rfl

theorem orUnset_of_isCompleted {s : Status} (completed : s.isCompleted = true) : s.orUnset = s := by
  unfold orUnset
  split
  case isTrue same =>
    rw [same] at completed
    cases completed
  case isFalse => rfl

theorem eq_of_orUnset {s known : Status} (same : s.orUnset = known) (set : known ≠ .unset) :
    s = known := by
  unfold orUnset at same
  split at same
  · exact (set same.symm).elim
  · exact same

end Status

end Orchestration
