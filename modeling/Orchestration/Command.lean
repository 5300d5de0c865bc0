/-!
Commands: what a transition can do instead of going on to a task.
-/

namespace Orchestration

inductive Command where
  | continue
  | noop
  | fail
  | retry
  deriving DecidableEq, Repr

namespace Command

def name : Command → String
  | .continue => "continue"
  | .noop => "noop"
  | .fail => "fail"
  | .retry => "retry"

def all : List Command := [.continue, .noop, .fail, .retry]

def ofName? (name : String) : Option Command := all.find? (·.name == name)

theorem name_of_ofName? {name : String} {c : Command} (found : ofName? name = some c) :
    c.name = name := by
  simpa using List.find?_some found

/-- The names that a task cannot have. -/
def names : List String := all.map name

def isName (s : String) : Bool := names.contains s

end Command

end Orchestration
