import Orchestration.Proofs.Sketch
import Orchestration.Proofs.Transitions

/-!
What hosts' calls do to the sketch of a state, whether they succeed or fail.

Each relation says all that one part of a call may leave behind. A part that may fail tells whether
it did, since what comes after it is left out then.
-/

namespace Orchestration

open Conducting (Chained)
open Conductor (Followers)

namespace State

/-! ### Transitions -/

def note (s : State) (index : Nat) (edge : Edge) (went : Bool) : State :=
  s.updateEntry index fun e =>
    { e with next := putNamed e.next (transitionKey edge.target edge.key) went }

/-- A task to which a transition leads is staged, or is taken up again if it is staged. -/
def reach (s : State) (task : String) (route : Nat) : State :=
  match s.staged? task route with
  | some _ => s.updateStaged task route fun t => { t with items := none, completed := false }
  | none => s.stage task route ⟨0, []⟩ ⟨0, []⟩ false none

def setReady (s : State) (task : String) (route : Nat) (ready : Bool) : State :=
  s.updateStaged task route fun t => { t with ready := ready }

def setRunOnFail (s : State) (tasks : List (String × Nat)) : State :=
  tasks.foldl (fun s next => s.updateStaged next.1 next.2 fun t => { t with runOnFail := true }) s

/-- The route on which a transition goes on: that of its task, or one that is opened for it. -/
inductive Routes (route : Nat) (edge : Edge) (s : State) : Nat → State → Prop where
  | stay : Routes route edge s route s
  | branch {old : List String} : s.routes[route]? = some old →
      Routes route edge s s.routes.length
        { s with routes := s.routes ++ [old ++ [transitionKey edge.source edge.key]] }

def followers (edge : Edge) (way : Nat) (ready : Bool) : Followers :=
  match Command.ofName? edge.target with
  | some command => ⟨[(command, way)], []⟩
  | none => ⟨[], if ready then [(edge.target, way)] else []⟩

inductive Along (g : Graph) (route index : Nat) (edge : Edge) (s : State) :
    Option Followers → State → Prop where
  | halt : Along g route index edge s none s
  | fail : Along g route index edge s (some ⟨[], []⟩) { s with status := .failed }
  | pass : Along g route index edge s (some ⟨[], []⟩) (s.note index edge false)
  | cut : Along g route index edge s none (s.note index edge true)
  | cutFailed :
      Along g route index edge s (some ⟨[], []⟩) { s.note index edge true with status := .failed }
  | cutReached {way : Nat} {routed : State} :
      Routes route edge (s.note index edge true) way routed →
      Along g route index edge s none (routed.reach edge.target way)
  | go {way : Nat} {routed : State} {ready : Bool} :
      Routes route edge (s.note index edge true) way routed →
      Conductor.isMet g (routed.reach edge.target way) edge.target route = .ok ready →
      Along g route index edge s (some (followers edge way ready))
        ((routed.reach edge.target way).setReady edge.target way ready)

inductive Onward (g : Graph) (route index : Nat) :
    List Edge → State → List Followers → Bool → State → Prop where
  | done (s : State) : Onward g route index [] s [] true s
  | cut {edge : Edge} {rest : List Edge} {s t : State} : Along g route index edge s none t →
      Onward g route index (edge :: rest) s [] false t
  | next {edge : Edge} {rest : List Edge} {found : Followers} {more : List Followers}
      {complete : Bool} {s middle t : State} : Along g route index edge s (some found) middle →
      Onward g route index rest middle more complete t →
      Onward g route index (edge :: rest) s (found :: more) complete t

def remedied (s : State) (found : List Followers) : State :=
  if (found.flatMap (·.commands)).any (·.1 == .fail) then s.setRunOnFail
    (found.flatMap (·.tasks)) else s

/-! ### Reports -/

def shelved (s : State) (task : String) (route : Nat) (e : Event) : State :=
  match s.staged? task route with
  | some x => if e.status != .missing && x.items.isNone then s.unstage task route else s
  | none => s

theorem Opened.staged_eq {task : String} {route index : Nat} {e : Event} {s opened : State}
    (opens : Opened task route e s index opened) : opened.staged = s.staged := by
  rcases opens with ⟨rfl, -⟩ | ⟨-, rfl⟩ <;> rfl

/-- An event about a task is received. It is about an entry, if it can be told about which. -/
inductive Takes (task : String) (route : Nat) (e : Event) (s : State) :
    Option Nat → State → Prop where
  | refuse : Takes task route e s none s
  | cut {index : Nat} {opened : State} : Opened task route e s index opened →
      Takes task route e s none (opened.shelved task route e)
  | plain {index : Nat} {opened : State} : Opened task route e s index opened →
      (∀ item accumulated, e.kind ≠ .item item accumulated) ∨ s.staged? task route = none →
      Takes task route e s (some index) (opened.shelved task route e)
  | item {index place : Nat} {opened : State} {x : Staged} {items : List Status}
      {item accumulated : Value} : Opened task route e s index opened →
      e.kind = .item item accumulated → s.staged? task route = some x →
      x.items = some items → itemIndex items item = .ok place →
      Takes task route e s (some index)
        (opened.updateStaged task route fun t =>
          { t with items := some (items.set place e.status) })

inductive Turns (e : Event) (index : Nat) (s : State) : Status → Status → State → Prop where
  | turn {entry : Entry} {answer : Option Status} : s.sequence[index]? = some entry →
      s.statusAfter entry.task entry.route entry.status e = .ok answer →
      Turns e index s entry.status (answer.getD entry.status)
        (s.updateEntry index fun own => { own with status := answer.getD entry.status })

def Baffles (e : Event) (index : Nat) (s : State) : Prop :=
  ∃ entry error, s.sequence[index]? = some entry ∧
    s.statusAfter entry.task entry.route entry.status e = .error error

/-- A task that is completed leaves staging, or is kept there so that it can be run again. -/
inductive Leaves (task : String) (route : Nat) (s : State) : State → Prop where
  | leave : Leaves task route s (s.unstage task route)
  | keep : Leaves task route s (s.updateStaged task route fun t => { t with completed := true })

/-- What comes of a task that has reacted to an event: nothing more, because something failed;
another try; or that the workflow follows, and some commands are carried out. -/
inductive Reaction where
  | stop
  | again
  | go (commands : List (Command × Nat))

inductive Reacts (g : Graph) (task : String) (route index : Nat) (old new : Status)
    (s : State) : Reaction → State → Prop where
  | cut : (new.isCompleted = true → s.staged? task route = none) →
      Reacts g task route index old new s .stop s
  | retry : new = .retrying → Reacts g task route index old new s (.go [])
      ((s.unstage task route).stage task route ⟨0, []⟩ ⟨0, []⟩ true none)
  | stay : new ≠ .retrying → new.isCompleted = false →
      Reacts g task route index old new s (.go []) s
  | leave {left : State} : new.isCompleted = true → Leaves task route s left →
      Reacts g task route index old new s .stop left
  | again {left : State} : new.isCompleted = true → Leaves task route s left →
      Reacts g task route index old new s .again left
  | same {left : State} : new.isCompleted = true → new = old.orUnset → Leaves task route s left →
      Reacts g task route index old new s (.go []) left
  | halt {left t : State} {found : List Followers} : new.isCompleted = true → new ≠ old.orUnset →
      Leaves task route s left → Onward g route index (g.nextTransitions task) left found false t →
      Reacts g task route index old new s .stop t
  | go {left gone : State} {found : List Followers} : new.isCompleted = true → new ≠ old.orUnset →
      Leaves task route s left →
      Onward g route index (g.nextTransitions task) left found true gone →
      Reacts g task route index old new s (.go (found.flatMap (·.commands))) (gone.remedied found)

def Ensues (g : Graph) (task : String) (route : Nat)
    (carries : Command × Nat → State → State → Prop) (commands : List (Command × Nat))
    (s t : State) : Prop :=
  t = s ∨ ∃ status followed done, Followed g task route status s followed ∧ done <+: commands ∧
    Chained carries done followed t

def Updates (g : Graph) : Nat → String → Nat → Event → State → State → Prop
  | 0, _, _, _, s, t => t = s
  | depth + 1, task, route, e, s, t =>
    Takes task route e s none t ∨
    ∃ index taken, Takes task route e s (some index) taken ∧
      (t = taken ∨ ∃ old new turned, Turns e index taken old new turned ∧
        (Reacts g task route index old new turned .stop t ∨
          ∃ reacted, (Reacts g task route index old new turned .again reacted ∧
              Updates g depth task route (.command .retry) reacted t) ∨
            ∃ commands, Reacts g task route index old new turned (.go commands) reacted ∧
              Ensues g task route (fun next => Updates g depth next.1.name next.2 (.command next.1))
                commands reacted t))

/-! ### Other calls -/

def Asked (status : Status) (s t : State) : Prop :=
  ∃ told word, Relation.ReflTransGen (Tells status) s told ∧ t = { told with status := word }

inductive Begins (s : State) : State → Prop where
  | begin (task : String) (route count : Nat) : Begins s (s.updateStaged task route fun t =>
    if (t.items.getD []).isEmpty then { t with items := some (List.replicate count .unset) } else t)

def Offered (s t : State) : Prop :=
  ∃ begun, Relation.ReflTransGen Begins s begun ∧ KeptOrFailed begun t

/-! ### What is left as it was -/

variable {s t u : State} {task : String} {route way index : Nat} {e : Event}
  {g : Graph} {edge : Edge}

@[simp]
theorem sequence_reach (s : State) (task : String) (route : Nat) :
    (s.reach task route).sequence = s.sequence := by
  unfold reach
  split <;> rfl

@[simp]
theorem tasks_reach (s : State) (task : String) (route : Nat) :
    (s.reach task route).tasks = s.tasks := by
  unfold reach
  split <;> rfl

@[simp]
theorem status_reach (s : State) (task : String) (route : Nat) :
    (s.reach task route).status = s.status := by
  unfold reach
  split <;> rfl

@[simp]
theorem sequence_unstage (s : State) (task : String) (route : Nat) :
    (s.unstage task route).sequence = s.sequence := by
  rw [unstage_eq]

@[simp]
theorem tasks_unstage (s : State) (task : String) (route : Nat) :
    (s.unstage task route).tasks = s.tasks := by
  rw [unstage_eq]

@[simp]
theorem status_unstage (s : State) (task : String) (route : Nat) :
    (s.unstage task route).status = s.status := by
  rw [unstage_eq]

@[simp]
theorem sequence_shelved (s : State) (task : String) (route : Nat) (e : Event) :
    (s.shelved task route e).sequence = s.sequence := by
  unfold shelved
  split
  · split
    · exact sequence_unstage s task route
    · rfl
  · rfl

@[simp]
theorem tasks_shelved (s : State) (task : String) (route : Nat) (e : Event) :
    (s.shelved task route e).tasks = s.tasks := by
  unfold shelved
  split
  · split
    · exact tasks_unstage s task route
    · rfl
  · rfl

theorem Routes.sequence_eq (routes : Routes route edge s way t) : t.sequence = s.sequence := by
  cases routes <;> rfl

theorem Routes.tasks_eq (routes : Routes route edge s way t) : t.tasks = s.tasks := by
  cases routes <;> rfl

theorem Routes.staged_eq (routes : Routes route edge s way t) : t.staged = s.staged := by
  cases routes <;> rfl

theorem Routes.status_eq (routes : Routes route edge s way t) : t.status = s.status := by
  cases routes <;> rfl

theorem Ensues.of_nil {carries : Command × Nat → State → State → Prop}
    (ensues : Ensues g task route carries [] s t) :
    t = s ∨ ∃ status, Followed g task route status s t := by
  rcases ensues with same | ⟨status, followed, done, follows, begins, chained⟩
  · exact .inl same
  · cases List.prefix_nil.mp begins
    exact .inr ⟨status, (chained : t = followed) ▸ follows⟩

theorem Ensues.restates {carries : Command × Nat → State → State → Prop}
    (ensues : Ensues g task route carries [] s t) : ∃ new, t = { s with status := new } := by
  rcases ensues.of_nil with rfl | ⟨_, follows⟩
  · exact ⟨t.status, rfl⟩
  · exact follows.restates

theorem Turns.staged_eq {old new : Status} (turns : Turns e index s old new t) :
    t.staged = s.staged := by
  cases turns
  rfl

/-- What is received is about an entry that is there, or about a new one. Nothing else happens to
the entries. -/
theorem Takes.opened {answer : Option Nat} (takes : Takes task route e s answer t) :
    answer = none ∧ t = s ∨ ∃ index opened, (answer = none ∨ answer = some index) ∧
      Opened task route e s index opened ∧ t.sequence = opened.sequence ∧
      t.tasks = opened.tasks := by
  cases takes with
  | refuse => exact .inl ⟨rfl, rfl⟩
  | cut opens => exact .inr ⟨_, _, .inl rfl, opens, sequence_shelved .., tasks_shelved ..⟩
  | plain opens => exact .inr ⟨_, _, .inr rfl, opens, sequence_shelved .., tasks_shelved ..⟩
  | item opens => exact .inr ⟨_, _, .inr rfl, opens, rfl, rfl⟩

theorem Along.noted {found : Option Followers} (along : Along g route index edge s found t) :
    t.tasks = s.tasks ∧ t.sequence = s.sequence ∨ ∃ went, Noted index edge went s t := by
  cases along with
  | halt | fail => exact .inl ⟨rfl, rfl⟩
  | pass => exact .inr ⟨false, rfl, rfl⟩
  | cut | cutFailed => exact .inr ⟨true, rfl, rfl⟩
  | cutReached routes =>
    exact .inr ⟨true, (tasks_reach ..).trans routes.tasks_eq,
      (sequence_reach ..).trans routes.sequence_eq⟩
  | go routes =>
    exact .inr ⟨true, (tasks_reach ..).trans routes.tasks_eq,
      (sequence_reach ..).trans routes.sequence_eq⟩

def followerNames (found : Followers) : List String :=
  found.commands.map (·.1.name) ++ found.tasks.map (·.1)

theorem mem_followers {name : String} {ready : Bool}
    (follows : name ∈ followerNames (followers edge way ready)) : name = edge.target := by
  unfold followers at follows
  cases named : Command.ofName? edge.target with
  | none =>
    rw [named] at follows
    cases ready <;> simp_all [followerNames]
  | some command =>
    rw [named] at follows
    have same : name = command.name := by simpa [followerNames] using follows
    rw [same, Command.name_of_ofName? named]

theorem Along.taken {found : Followers} {name : String}
    (along : Along g route index edge s (some found) t) (follows : name ∈ followerNames found) :
    name = edge.target ∧ Noted index edge true s t := by
  cases along with
  | fail | pass | cutFailed => cases follows
  | go routes =>
    exact ⟨mem_followers follows, (tasks_reach ..).trans routes.tasks_eq,
      (sequence_reach ..).trans routes.sequence_eq⟩

theorem Renoted.of_eq (status : t.status = s.status ∨ t.status = .failed)
    (tasks : t.tasks = s.tasks) (sequence : t.sequence = s.sequence) : Renoted index s t :=
  ⟨status, tasks, id, fun e => ⟨e.next, rfl⟩, by rw [List.modify_id, sequence]⟩

theorem Renoted.getElem?_of_ne {i : Nat} (renoted : Renoted index s t) (elsewhere : i ≠ index) :
    t.sequence[i]? = s.sequence[i]? := by
  obtain ⟨f, -, sequence⟩ := renoted.sequence
  rw [sequence, List.getElem?_modify_ne _ _ elsewhere.symm]

theorem Along.renoted {found : Option Followers} (along : Along g route index edge s found t) :
    Renoted index s t := by
  have status : t.status = s.status ∨ t.status = .failed := by
    cases along with
    | halt | pass | cut => exact .inl rfl
    | fail | cutFailed => exact .inr rfl
    | cutReached routes => exact .inl ((status_reach ..).trans routes.status_eq)
    | go routes => exact .inl ((status_reach ..).trans routes.status_eq)
  rcases along.noted with ⟨tasks, sequence⟩ | ⟨went, noted⟩
  · exact .of_eq status tasks sequence
  · exact noted.renoted status

theorem Onward.renoted {edges : List Edge} {found : List Followers} {complete : Bool}
    (onward : Onward g route index edges s found complete t) : Renoted index s t := by
  induction onward with
  | done s => exact .refl index s
  | cut along => exact along.renoted
  | next along _ ih => exact along.renoted.trans ih

theorem Leaves.renoted (leaves : Leaves task route s t) : Renoted index s t := by
  cases leaves with
  | leave => exact .of_eq (.inl (status_unstage ..)) (tasks_unstage ..) (sequence_unstage ..)
  | keep => exact .of_eq (.inl rfl) rfl rfl

theorem remedied_eq (s : State) (found : List Followers) :
    s.remedied found = { s with staged := (s.remedied found).staged } := by
  have marks (tasks : List (String × Nat)) :
      s.setRunOnFail tasks = { s with staged := (s.setRunOnFail tasks).staged } := by
    induction tasks generalizing s with
    | nil => rfl
    | cons next rest ih => exact ih (s.updateStaged next.1 next.2 _)
  unfold remedied
  split
  · exact marks _
  · rfl

theorem renoted_remedied (s : State) (found : List Followers) :
    Renoted index s (s.remedied found) := by
  rw [remedied_eq]
  exact .of_eq (.inl rfl) rfl rfl

/-- What follows from a change of the status of a task changes nothing in the entries but where it
went on to. -/
theorem Reacts.renoted {old new : Status} {reaction : Reaction}
    (reacts : Reacts g task route index old new s reaction t) : Renoted index s t := by
  cases reacts with
  | cut | stay => exact .refl index s
  | retry => exact .of_eq (.inl (status_unstage ..)) (tasks_unstage ..) (sequence_unstage ..)
  | leave _ leaves | again _ leaves | same _ _ leaves => exact leaves.renoted
  | halt _ _ leaves onward => exact leaves.renoted.trans onward.renoted
  | go _ _ leaves onward => exact (leaves.renoted.trans onward.renoted).trans (renoted_remedied ..)

end State

end Orchestration
