import Orchestration.Event.Basic

/-!
Rows of a state machine: the signals that a status answers, each with the status it leads to.
-/

namespace Orchestration.Machine

abbrev Row := List (Signal × Status)

namespace Row

def next? (row : Row) (signal : Signal) : Option Status := (row.find? (·.1 == signal)).map (·.2)

/-- Takes over each status that is reported. -/
def follow (subject : Subject) (statuses : List Status) : Row :=
  statuses.map fun s => (.about subject s .plain, s)

/-- Each of some statuses leads to one and the same. -/
def become (new : Status) (subject : Subject) (statuses : List Status) : Row :=
  statuses.map fun s => (.about subject s .plain, new)

/-- A status that is reported while tasks of the workflow are active, and when none is. -/
def during (subject : Subject) (status : Status) (active dormant : Status) : Row :=
  [(.about subject status (.workflow .active), active), (.about subject status (.workflow .dormant), dormant)]

/-- The end of a task, by what is left of the workflow. -/
def progress (word : Scope → Signal) (activity : Activity) (outcomes : List (Outlook × Status)) :
    Row :=
  outcomes.map fun (outlook, new) => (word (.progress activity outlook), new)

/-- The action of an item, by what is left of the items. -/
def items (subject : Subject) (status : Status) (activity : Activity)
    (outcomes : List (Outlook × Status)) : Row :=
  outcomes.map fun (outlook, new) => (.about subject status (.items activity outlook), new)

end Row

def canGo (row? : Status → Option Row) (old new : Status) : Except Error Bool :=
  let old := old.orUnset
  let new := new.orUnset
  if !old.isKnown then .error (.wrongStatus old.text)
  else if !new.isKnown then .error (.wrongStatus new.text)
  else
    match row? old with
    | none => .ok false
    | some row => .ok (old == new || row.any (·.2 == new))

end Orchestration.Machine
