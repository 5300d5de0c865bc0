import Mathlib.Logic.Relation
import Orchestration.Conductor.Update
import Orchestration.Proofs.Conducting
import Orchestration.Proofs.Outline

/-!
What a report about a task does to the outline of a state.

A report is received: it is about the latest entry of its task, or about a new one. The task reacts
by a change of its status. If it is completed it may be tried again; otherwise it goes on along its
transitions. Then the workflow follows, and the commands to which the task went on are carried out.
-/

namespace Orchestration

/-! ### Requests -/

namespace State

def Tells (status : Status) (s t : State) : Prop :=
  ∃ index entry scope new, s.sequence[index]? = some entry ∧
    Machine.Task.step entry.status (.about .workflow status scope) = .ok (some new) ∧
    t = s.updateEntry index fun entry => { entry with status := new }

/-- The entries that are active have been told of a request, and then the workflow has followed
it. -/
def Requested (status : Status) (s t : State) : Prop :=
  ∃ told answer, Relation.ReflTransGen (Tells status) s told ∧
    Conductor.requestSignal told (.workflow status) ∈ Signal.workflowSignals ∧
    Machine.Workflow.step told.status
    (Conductor.requestSignal told (.workflow status)) = .ok answer ∧
    t = { told with status := answer.getD told.status } ∧
    (t.status = s.status → status = s.status ∨ Conductor.isPending status s.status t.status = true)

def KeptOrFailed (s t : State) : Prop := t = s ∨ t = { s with status := .failed }

end State

/-! ### Reports -/

/-- Whether an event may bring a task from one status to another. What a command tells a task is
known. -/
def Event.Leads (e : Event) (old new : Status) : Prop :=
  ∃ signal answer, (∀ command, e = .command command → signal = .command command) ∧
    Machine.Task.step old signal = .ok answer ∧ new = answer.getD old

namespace State

def freshEntry (task : String) (route : Nat) : Entry :=
  ⟨task, route, ⟨0, []⟩, [], ⟨0, []⟩, [], none, .missing, false⟩

def KeepsOthers (task : String) (route : Nat) (s t : State) : Prop :=
  ∀ x ∈ s.staged, x.isAt task route = false → x ∈ t.staged

structure Restaged (task : String) (route : Nat) (s t : State) : Prop where
  status : t.status = s.status
  tasks : t.tasks = s.tasks
  sequence : t.sequence = s.sequence
  others : KeepsOthers task route s t

/-- An event is about the latest entry of its task, or a new one is added. -/
def Opened (task : String) (route : Nat) (e : Event) (s : State) (index : Nat) (t : State) : Prop :=
  (t = s ∧ s.index? task route = some index ∧ Command.isName task = false ∧
    ∀ entry, s.sequence[index]? = some entry → (entry.isCompleted && e.status.isStarting) = false) ∨
  (index = s.sequence.length ∧ t = s.addEntry (freshEntry task route))

def Received (task : String) (route : Nat) (e : Event) (s : State) (index : Nat)
    (t : State) : Prop :=
  ∃ opened, Opened task route e s index opened ∧ Restaged task route opened t

structure Reacted (task : String) (route : Nat) (e : Event) (index : Nat) (old new : Status)
    (s t : State) : Prop where
  entry : ∃ entry, s.sequence[index]? = some entry ∧ entry.status = old
  leads : e.Leads old new
  restaged : Restaged task route (s.updateEntry index fun entry => { entry with status := new }) t
  /-- A task that is tried again is staged. -/
  again : new = .retrying → t.hasReady = true

/-- Whatever an entry went on to is staged, and it is ready if enough of the tasks before it went on
to it. -/
def Led (g : Graph) (s : State) (route : Nat) (entry : Entry) (edges : List Edge) : Prop :=
  ∀ edge ∈ edges, entry.next.lookup (transitionKey edge.target edge.key) = some true →
    ∃ x ∈ s.staged, x.task = edge.target ∧ x.completed = false ∧
      (Conductor.isMet g s edge.target route = .ok true → x.ready = true)

/-- A command is staged, and it is ready if it does not wait for others. -/
def Queued (g : Graph) (s : State) (command : Command × Nat) : Prop :=
  ∃ x ∈ s.staged, x.isAt command.1.name command.2 = true ∧
    ((∀ barrier, g.barrier command.1.name = .ok barrier → barrier.truthy = false) →
      x.isReady = true)

structure Renoted (index : Nat) (s t : State) : Prop where
  status : t.status = s.status ∨ t.status = .failed
  tasks : t.tasks = s.tasks
  sequence : ∃ f : Entry → Entry, (∀ e, ∃ next, f e = { e with next := next }) ∧
    t.sequence = s.sequence.modify index f

structure Noted (index : Nat) (edge : Edge) (went : Bool) (s t : State) : Prop where
  tasks : t.tasks = s.tasks
  sequence : t.sequence = s.sequence.modify index fun e =>
    { e with next := putNamed e.next (transitionKey edge.target edge.key) went }

/-- What a transition leads to is staged, and it is ready if enough of the tasks before it went on
to it. -/
structure Prepared (g : Graph) (route : Nat) (edge : Edge) (way : Nat) (s t : State) : Prop where
  others : KeepsOthers edge.target way s t
  staged : ∃ x ∈ t.staged, x.isAt edge.target way = true ∧ x.completed = false ∧
    Conductor.isMet g t edge.target route = .ok x.ready

/-- A task went along a transition, if that has not made the workflow fail. -/
structure WentAlong (g : Graph) (route index : Nat) (edge : Edge) (found : Conductor.Followers)
    (s t : State) : Prop extends Renoted index s t where
  course : t.status ≠ .failed →
    (Noted index edge false s t ∧ t.staged = s.staged ∧ found.commands = []) ∨
    (Noted index edge true s t ∧ ∃ way, Prepared g route edge way s t ∧
      ∀ command ∈ found.commands, command.1.name = edge.target ∧ command.2 = way)

structure WentOn (g : Graph) (route index : Nat) (edges : List Edge)
    (commands : List (Command × Nat)) (s t : State) : Prop extends Renoted index s t where
  nowhere : edges = [] → t.staged = s.staged
  led : t.status ≠ .failed → ∀ entry, t.sequence[index]? = some entry → Led g t route entry edges
  queued : t.status ≠ .failed → ∀ command ∈ commands, Queued g t command

def GoesOn (g : Graph) (task : String) (route index : Nat) (old new : Status)
    (commands : List (Command × Nat)) (s t : State) : Prop :=
  if new.isCompleted = true ∧ new ≠ old.orUnset then WentOn g route index
    (g.nextTransitions task) commands s t
  else t = s ∧ commands = []

def Follows (g : Graph) (s : State) (task : String) (route : Nat)
    (judgeJoins answer : Bool) : Prop :=
  match s.latest? task route with
  | none => answer = false
  | some e =>
    if e.isCompleted then
      (g.nextTransitions task).anyM (Conductor.leadsOn g s e route judgeJoins) = .ok answer
    else answer = false

def Surrounds (g : Graph) (s : State) (task : String) (route : Nat)
    (around : Machine.Workflow.Surroundings) : Prop :=
  ∃ joins next, Follows g s task route false joins ∧
    (Follows g s task route true next ∨ (task = "" ∧ next = s.hasReady)) ∧
    around = ⟨s.hasActive, next || joins, Conductor.outlook s next⟩

/-- The workflow has followed a task. One that would be completed fails if a join can no longer be
reached. -/
def Followed (g : Graph) (task : String) (route : Nat) (status : Status) (s t : State) : Prop :=
  ∃ around answer, Surrounds g s task route around ∧
    Machine.Workflow.taskSignal (.task (some task) (some route) status) around ∈
    Signal.taskSignals ∧ Machine.Workflow.step s.status
      (Machine.Workflow.taskSignal (.task (some task) (some route) status) around) = .ok answer ∧
    ∃ new, t = { s with status := new } ∧
      (new = answer.getD s.status ∨
        (∃ led, answer = some led ∧ led.isCompleted = true ∧ new = .failed))

def Took (g : Graph) : Nat → String → Nat → Event → State → State → Prop
  | 0, _, _, _, _, _ => False
  | depth + 1, task, route, e, s, t =>
    ∃ index received reacted old new, Received task route e s index received ∧
      Reacted task route e index old new received reacted ∧
      ((new.isCompleted = true ∧ Took g depth task route (.command .retry) reacted t) ∨
       ∃ commands gone followed, GoesOn g task route index old new commands reacted gone ∧
         Followed g task route new gone followed ∧
         Conducting.Chained (fun command => Took g depth command.1.name command.2
           (.command command.1)) commands followed t)

/-! ### What the outline tells of them -/

variable {s t u : State} {g : Graph} {task : String} {route : Nat}

/-- What a request tells the workflow, unless it depends on the tasks. -/
theorem requestSignal_of_plain (s : State) (status : Status) (noStop : status.isStop = false)
    (noRun : status ≠ .running) (noResume : status ≠ .resuming) :
    Conductor.requestSignal s (.workflow status) = .about .workflow status .plain := by
  change (if status.isStop = true then _
    else if (_ && (status == .running || status == .resuming)) = true then _
    else Signal.about .workflow status .plain) = _
  rw [noStop, beq_false_of_ne noRun, beq_false_of_ne noResume, Bool.or_self, Bool.and_false]
  rfl

theorem Requested.eq_failed (requested : Requested .failed s t) :
    t = { s with status := .failed } := by
  obtain ⟨told, answer, tells, -, led, changed, fine⟩ := requested
  have same : told = s := by
    cases tells with
    | refl => rfl
    | tail _ last =>
      obtain ⟨_, _, _, _, -, led, -⟩ := last
      cases (Machine.Task.stop_of_step led).1
  subst same
  have failed : t.status = .failed := by
    cases answer with
    | some new =>
      have plain := requestSignal_of_plain told .failed rfl (by decide) (by decide)
      rw [plain] at led
      rw [changed]
      exact Machine.Workflow.eq_of_plain_step led
    | none =>
      have unchanged : t.status = told.status := by rw [changed]; rfl
      rcases fine unchanged with same | pending
      · rw [unchanged, same]
      · simp [Conductor.isPending] at pending
  rw [changed] at failed ⊢
  rw [← failed]

theorem follows_outline {judgeJoins answer : Bool} :
    Follows g s.outline task route judgeJoins answer ↔
      Follows g s task route judgeJoins answer := by
  unfold Follows
  rw [latest?_outline]
  cases s.latest? task route with
  | none => exact .rfl
  | some entry =>
    have leads : Conductor.leadsOn g s.outline entry.outline route judgeJoins =
        Conductor.leadsOn g s entry route judgeJoins :=
      funext (leadsOn_outline s g entry route judgeJoins)
    dsimp only [Option.map_some]
    rw [leads]
    exact .rfl

theorem surrounds_outline {around : Machine.Workflow.Surroundings} :
    Surrounds g s.outline task route around ↔ Surrounds g s task route around := by
  simp only [Surrounds, follows_outline, hasActive, hasLatest_outline, hasReady_outline,
    outlook_outline]

theorem Followed.outline {status : Status} (followed : Followed g task route status s t) :
    Followed g task route status s.outline t.outline := by
  obtain ⟨around, answer, surrounds, known, led, new, changed, became⟩ := followed
  exact ⟨around, answer, surrounds_outline.mpr surrounds, known, led,
    new, by rw [changed]; rfl, became⟩

theorem Followed.restates {status : Status} (followed : Followed g task route status s t) :
    ∃ new, t = { s with status := new } := by
  obtain ⟨-, -, -, -, -, new, changed, -⟩ := followed
  exact ⟨new, changed⟩

theorem index?_addEntry (s : State) (task : String) (route : Nat) :
    (s.addEntry (freshEntry task route)).index? task route = some s.sequence.length :=
  lookup_putNamed_self ..

theorem updateEntry_eq_self {index : Nat} {entry : Entry} {f : Entry → Entry}
    (found : s.sequence[index]? = some entry) (same : f entry = entry) :
    s.updateEntry index f = s := by
  have unchanged : s.sequence.modify index f = s.sequence := by
    refine List.ext_getElem? fun i => ?_
    rw [List.getElem?_modify]
    by_cases here : index = i
    case pos =>
      subst here
      simp [found, same]
    case neg => simp [here]
  rw [updateEntry, unchanged]

theorem Reacted.entryAt {e : Event} {index : Nat} {old new : Status}
    (reacted : Reacted task route e index old new s t) :
    ∃ entry, t.sequence[index]? = some entry ∧ entry.status = new := by
  obtain ⟨entry, found, -⟩ := reacted.entry
  refine ⟨{ entry with status := new }, ?_, rfl⟩
  rw [reacted.restaged.sequence]
  change (s.sequence.modify index _)[index]? = _
  rw [List.getElem?_modify_eq, found]
  rfl

theorem Received.latest {e : Event} {index : Nat} (received : Received task route e s index t) :
    t.index? task route = some index := by
  obtain ⟨opened, opens, restaged⟩ := received
  rw [index?, restaged.tasks]
  rcases opens with ⟨rfl, found, -⟩ | ⟨rfl, rfl⟩
  · exact found
  · exact index?_addEntry s task route

/-! ### Staging -/

theorem Restaged.refl (task : String) (route : Nat) (s : State) : Restaged task route s s :=
  ⟨rfl, rfl, rfl, fun _ staged _ => staged⟩

theorem Restaged.trans (first : Restaged task route s t) (second : Restaged task route t u) :
    Restaged task route s u where
  status := second.status.trans first.status
  tasks := second.tasks.trans first.tasks
  sequence := second.sequence.trans first.sequence
  others x staged elsewhere := second.others x (first.others x staged elsewhere) elsewhere

theorem Restaged.outline (restaged : Restaged task route s t) :
    Restaged task route s.outline t.outline where
  status := restaged.status
  tasks := restaged.tasks
  sequence := congrArg (List.map Entry.outline) restaged.sequence
  others x staged elsewhere := by
    obtain ⟨y, mem, rfl⟩ := List.mem_map.mp staged
    exact List.mem_map_of_mem (restaged.others y mem elsewhere)

theorem restaged_unstage (s : State) (task : String) (route : Nat) :
    Restaged task route s (s.unstage task route) := by
  unfold unstage
  split
  · split
    · exact .refl task route s
    · refine ⟨rfl, rfl, rfl, fun x staged elsewhere => ?_⟩
      exact (List.mem_eraseP_of_neg (by simpa using elsewhere)).mpr staged
  · exact .refl task route s

theorem restaged_stage (s : State) (task : String) (route : Nat) (contexts : Shared (List Nat))
    (prev : Shared (List (String × Nat))) (ready : Bool) (retry : Option (Shared Value)) :
    Restaged task route s (s.stage task route contexts prev ready retry) :=
  ⟨rfl, rfl, rfl, fun _ staged _ => List.mem_append_left _ staged⟩

theorem restaged_updateStaged (s : State) (task : String) (route : Nat) (f : Staged → Staged) :
    Restaged task route s (s.updateStaged task route f) := by
  refine ⟨rfl, rfl, rfl, fun x staged elsewhere => ?_⟩
  obtain ⟨i, found⟩ := List.getElem?_of_mem staged
  have other : s.staged.findIdx (·.isAt task route) ≠ i := by
    rintro rfl
    obtain ⟨bound, same⟩ := List.getElem?_eq_some_iff.mp found
    have here := List.findIdx_getElem (w := bound)
    rw [same, elsewhere] at here
    cases here
  refine List.mem_of_getElem? (i := i) ?_
  change (s.staged.modify _ f)[i]? = some x
  simp [found, other]

theorem staged?_updateStaged (s : State) (task : String) (route : Nat) {f : Staged → Staged}
    (same : ∀ x, (f x).isAt task route = x.isAt task route) :
    (s.updateStaged task route f).staged? task route = (s.staged? task route).map f := by
  unfold staged? updateStaged
  induction s.staged with
  | nil => rfl
  | cons x rest ih =>
    by_cases here : x.isAt task route = true
    case pos => simp [List.findIdx_cons, here, same]
    case neg => simpa [List.findIdx_cons, here, same] using ih

end State

end Orchestration
