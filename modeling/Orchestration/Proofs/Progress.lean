import Orchestration.Proofs.Transitions

/-!
Workflows that have been started never get stuck.

As long as a workflow goes on, a task is active, or can be started, or waits for its host. As long
as it is to stop, a task is active that will let it. Reports and requests keep it so.
-/

namespace Orchestration

open Machine.Workflow (begun)

namespace State

variable {s t : State} {g : Graph} {task : String} {route index : Nat} {e : Event} {entry : Entry}
  {old new status : Status}

/-- A workflow that goes on has something to go on with, and one that is to stop waits for what is
active. -/
structure Progressing (s : State) : Prop where
  onward : s.status = .running ∨ s.status = .resuming → s.hasActive = true ∨ s.hasReady = true ∨
    s.hasPaused = true
  stopping : s.status = .pausing ∨ s.status = .canceling → s.hasActive = true

theorem progressing_outline : s.outline.Progressing ↔ s.Progressing := by
  constructor
  · rintro ⟨onward, stopping⟩
    simp only [hasActive, hasPaused, status_outline, hasLatest_outline, hasReady_outline]
      at onward stopping
    exact ⟨onward, stopping⟩
  · rintro ⟨onward, stopping⟩
    constructor <;> simp only [hasActive, hasPaused, status_outline, hasLatest_outline,
      hasReady_outline]
    · exact onward
    · exact stopping

theorem progressing_of_failed (failed : s.status = .failed) : s.Progressing := by
  constructor <;> simp [failed]

/-! ### Latest entries -/

theorem isLatest_of_index? (latest : s.index? task route = some index) :
    s.isLatest index = true := by
  obtain ⟨before, after, split, -⟩ := List.lookup_eq_some_iff.mp latest
  simp [isLatest, split]

theorem hasLatest_iff {statuses : List Status} : s.hasLatest statuses = true ↔
    ∃ index entry, s.isLatest index = true ∧ s.sequence[index]? = some entry ∧
      entry.status ∈ statuses := by
  have counted (index : Nat) (entry : Entry) :
      (index, entry) ∈ s.numbered ↔ s.sequence[index]? = some entry := by
    simp [numbered, List.mem_zipIdx_iff_getElem?]
  simp only [hasLatest, entriesWith, restrict, if_true, Bool.not_eq_true',
    List.isEmpty_eq_false_iff_exists_mem, List.mem_filter, Entry.hasStatus, List.contains_iff_mem]
  constructor
  · rintro ⟨⟨index, entry⟩, ⟨mem, holds⟩, latest⟩
    exact ⟨index, entry, latest, (counted index entry).mp mem, holds⟩
  · rintro ⟨index, entry, latest, found, holds⟩
    exact ⟨(index, entry), ⟨(counted index entry).mpr found, holds⟩, latest⟩

theorem hasLatest_of_index? {statuses : List Status} (latest : s.index? task route = some index)
    (found : s.sequence[index]? = some entry) (holds : entry.status ∈ statuses) :
    s.hasLatest statuses = true :=
  hasLatest_iff.mpr ⟨index, entry, isLatest_of_index? latest, found, holds⟩

theorem hasLatest_mono {few many : List Status} (within : few ⊆ many)
    (has : s.hasLatest few = true) : s.hasLatest many = true := by
  obtain ⟨index, entry, latest, found, holds⟩ := hasLatest_iff.mp has
  exact hasLatest_iff.mpr ⟨index, entry, latest, found, within holds⟩

/-! ### What is left to do -/

theorem outlook_ne_failed (s : State) (next : Bool) : Conductor.outlook s next ≠ .failed := by
  unfold Conductor.outlook
  split
  · simp
  · split
    · simp
    · split <;> simp

theorem of_outlook_paused {next : Bool} (outlook : Conductor.outlook s next = .paused) :
    s.hasActive = true ∨ s.hasPaused = true := by
  unfold Conductor.outlook at outlook
  split at outlook
  · cases outlook
  · split at outlook
    case isTrue either =>
      rcases Bool.or_eq_true_iff.mp either with pausing | paused
      · exact .inl (hasLatest_mono (by decide) pausing)
      · exact .inr paused
    case isFalse => split at outlook <;> cases outlook

theorem of_outlook_incomplete {next : Bool} (outlook : Conductor.outlook s next = .incomplete) :
    s.hasReady = true ∨ next = true := by
  unfold Conductor.outlook at outlook
  split at outlook
  · cases outlook
  · split at outlook
    · cases outlook
    · split at outlook
      case isTrue either => exact Bool.or_eq_true_iff.mp either
      case isFalse => cases outlook

/-! ### Reports -/

/-- A workflow that has been started makes progress when it has followed one of its tasks. What the
task went on to is staged, and a task that is tried again is staged as well. -/
theorem Followed.progressing (followed : Followed g task route status s t)
    (started : s.status ∈ begun) (latest : s.index? task route = some index)
    (found : s.sequence[index]? = some entry) (same : entry.status = status)
    (again : status = .retrying → s.hasReady = true)
    (led : status.isCompleted = true → status ≠ .canceled → s.status ≠ .failed →
      Led g s route entry (g.nextTransitions task)) : t.Progressing ∧ t.status ∈ begun := by
  obtain ⟨around, answer, ⟨joins, next, -, goesOn, rfl⟩, known, stepped, new, rfl, became⟩ :=
    followed
  have fair := Machine.Workflow.fair_of_step started (outlook_ne_failed s next) known stepped
  rcases became with rfl | ⟨_, -, -, rfl⟩
  case inr => exact ⟨progressing_of_failed rfl, show Status.failed ∈ begun by decide⟩
  have own {statuses : List Status} (holds : status ∈ statuses) : s.hasLatest statuses = true :=
    hasLatest_of_index? latest found (same ▸ holds)
  refine ⟨⟨fun onward => ?_, fun stopping => ?_⟩, fair.started⟩
  · change s.hasActive = true ∨ s.hasReady = true ∨ s.hasPaused = true
    rcases fair.onward onward with active | active | retrying | waits | ⟨incomplete, other⟩ | paused
    · exact .inl active
    · exact .inl (own (by simpa [Status.isActive] using active))
    · exact .inr (.inl (again retrying))
    · exact .inr (.inr (own waits))
    · by_cases active : s.hasActive = true
      case pos => exact .inl active
      have idle : s.hasActive = false := by simpa using active
      refine .inr (.inl ?_)
      rcases of_outlook_incomplete incomplete with ready | rfl
      · exact ready
      rcases goesOn with follows | ⟨-, ready⟩
      · have alive : s.status ≠ .failed := by
          intro dead
          rw [fair.failed dead] at onward
          simp at onward
        have completed : status.isCompleted = true :=
          same ▸ isCompleted_of_follows latest found follows
        exact hasReady_of_follows latest found (led completed other alive) follows idle
      · exact ready.symm
    · exact (of_outlook_paused paused).imp_right .inr
  · rcases fair.stopping stopping with active | active
    · exact active
    · exact own (by simpa [Status.isActive] using active)

structure Underway (s : State) : Prop where
  started : s.status ∈ begun
  indexed : Indexed s.tasks s.places
  progressing : s.Progressing

/-- A task that is completed is reported on only to start it again, or to try it again. -/
def Fits (task : String) (route : Nat) (e : Event) (s : State) : Prop :=
  ∀ entry, s.latest? task route = some entry → entry.isCompleted = true →
    e = .command .retry ∨ e.status.isStarting = true ∨ Command.isName task = true

theorem Opened.indexed (opened : Opened task route e s index t)
    (indexed : Indexed s.tasks s.places) : Indexed t.tasks t.places := by
  rcases opened with ⟨rfl, -⟩ | ⟨-, rfl⟩
  · exact indexed
  · rw [places_addEntry]
    have added := indexed.add task route
    rw [length_places] at added
    exact added

theorem Restaged.indexed (restaged : Restaged task route s t) (indexed : Indexed s.tasks s.places) :
    Indexed t.tasks t.places := by
  rw [restaged.tasks, places, restaged.sequence]
  exact indexed

theorem Received.status_eq (received : Received task route e s index t) : t.status = s.status := by
  obtain ⟨opened, opens, restaged⟩ := received
  rcases opens with ⟨rfl, -⟩ | ⟨-, rfl⟩
  · exact restaged.status
  · exact restaged.status

theorem Received.indexed (received : Received task route e s index t)
    (indexed : Indexed s.tasks s.places) : Indexed t.tasks t.places := by
  obtain ⟨opened, opens, restaged⟩ := received
  exact restaged.indexed (opens.indexed indexed)

/-- What has been received is about an entry that is not completed, unless it is to be tried
again. -/
theorem Received.isCompleted_eq (received : Received task route e s index t)
    (fits : Fits task route e s) (found : t.sequence[index]? = some entry) :
    entry.isCompleted = false ∨ e = .command .retry := by
  obtain ⟨opened, opens, restaged⟩ := received
  rw [restaged.sequence] at found
  rcases opens with ⟨rfl, latest, noCommand, notAgain⟩ | ⟨rfl, rfl⟩
  · by_cases completed : entry.isCompleted = true
    case neg => exact .inl (by simpa using completed)
    case pos =>
      have latestEntry : opened.latest? task route = some entry := by
        rw [latest?, latest]
        exact found
      rcases fits entry latestEntry completed with retry | starting | command
      · exact .inr retry
      · have both := notAgain entry found
        rw [completed, starting] at both
        cases both
      · cases noCommand.symm.trans command
  · left
    simp only [addEntry, List.getElem?_concat_length, Option.some.injEq] at found
    rw [← found]
    rfl

theorem Reacted.indexed (reacted : Reacted task route e index old new s t)
    (indexed : Indexed s.tasks s.places) : Indexed t.tasks t.places := by
  refine reacted.restaged.indexed ?_
  rw [places_updateEntry (by intro _; rfl)]
  exact indexed

theorem Reacted.latest (reacted : Reacted task route e index old new s t)
    (latest : s.index? task route = some index) : t.index? task route = some index := by
  rw [index?, reacted.restaged.tasks]
  exact latest

theorem GoesOn.wentOn {commands : List (Command × Nat)}
    (goes : GoesOn g task route index old new commands s t) (completed : new.isCompleted = true)
    (unlike : old.isCompleted = false) :
    WentOn g route index (g.nextTransitions task) commands s t := by
  have different : new ≠ old.orUnset := by
    intro same
    rw [same, Status.isCompleted_orUnset, unlike] at completed
    cases completed
  rw [GoesOn, if_pos ⟨completed, different⟩] at goes
  exact goes

theorem Reacted.eq_canceled (reacted : Reacted task route (.command .retry) index old new s t)
    (completed : new.isCompleted = true) : new = .canceled := by
  obtain ⟨signal, answer, fits, led, rfl⟩ := reacted.leads
  rw [fits .retry rfl] at led
  exact Machine.Task.eq_canceled_of_retry led completed

theorem Followed.underway {received reacted gone : State}
    {commands : List (Command × Nat)} (reacts : Reacted task route e index old new received reacted)
    (goes : GoesOn g task route index old new commands reacted gone)
    (followed : Followed g task route new gone t) (indexed : Indexed reacted.tasks reacted.places)
    (latest : reacted.index? task route = some index) (started : reacted.status ∈ begun)
    (open_ : old.isCompleted = false ∨ e = .command .retry) : t.Underway := by
  obtain ⟨entry, found, sameStatus⟩ := reacts.entryAt
  obtain ⟨changed, foundNow, keeps⟩ := goes.renoted.entryAt found
  have latestNow : gone.index? task route = some index := by
    rw [index?, goes.renoted.tasks]
    exact latest
  have startedNow : gone.status ∈ begun := by
    rcases goes.renoted.status with same | failed
    · exact same ▸ started
    · rw [failed]
      decide
  have again (retrying : new = .retrying) : gone.hasReady = true := by
    rw [GoesOn, if_neg (by simp [retrying, Status.isCompleted, Status.completed])] at goes
    exact goes.1 ▸ reacts.again retrying
  have led (completed : new.isCompleted = true) (other : new ≠ .canceled)
      (alive : gone.status ≠ .failed) : Led g gone route changed (g.nextTransitions task) := by
    rcases open_ with unlike | rfl
    · exact (goes.wentOn completed unlike).led alive changed foundNow
    · exact (other (reacts.eq_canceled completed)).elim
  have places : Indexed t.tasks t.places := by
    obtain ⟨_, _, -, -, -, _, rfl, -⟩ := followed
    change Indexed gone.tasks gone.places
    rw [goes.renoted.tasks, goes.renoted.places_eq]
    exact indexed
  have result :=
    followed.progressing startedNow latestNow foundNow (keeps.trans sameStatus) again led
  exact ⟨result.2, places, result.1⟩

theorem fits_command (command : Command) (route : Nat) (e : Event) (s : State) :
    Fits command.name route e s :=
  fun _ _ _ => .inr (.inr (by cases command <;> rfl))

theorem Took.underway {depth : Nat} (took : Took g depth task route e s t)
    (started : s.status ∈ begun) (indexed : Indexed s.tasks s.places) (fits : Fits task route e s) :
    t.Underway := by
  induction depth generalizing task route e s t with
  | zero => exact took.elim
  | succ depth ih =>
    obtain ⟨index, received, reacted, old, new, receives, reacts, rest⟩ := took
    have indexedNow := reacts.indexed (receives.indexed indexed)
    have startedNow : reacted.status ∈ begun := by
      rw [reacts.restaged.status]
      exact receives.status_eq ▸ started
    rcases rest with ⟨-, again⟩ | ⟨commands, gone, followed, goes, follows, chained⟩
    · exact ih again startedNow indexedNow fun _ _ _ => .inl rfl
    · obtain ⟨entry, found, sameStatus⟩ := reacts.entry
      have open_ := receives.isCompleted_eq fits found
      have first : followed.Underway := by
        refine follows.underway reacts goes indexedNow (reacts.latest receives.latest) startedNow ?_
        exact sameStatus ▸ open_
      refine chained.keep Underway (fun command s t underway took => ?_) first
      exact ih took underway.started underway.indexed (fits_command command.1 command.2 _ s)

/-! ### Requests -/

/-- What a request may make of a workflow that has been started. What goes on did so before, or is
not settled. -/
structure FairRequest (old status : Status) (active settled : Bool) (new : Status) : Prop where
  started : new ∈ begun
  onward : new = .running ∨ new = .resuming → status.isStop = false ∧
    (old ∈ [Status.running, .resuming, .pausing] ∨ (old = .paused ∧ settled = false))
  stopping : new = .pausing ∨ new = .canceling → active = true ∨ (status.isStop = false ∧ old = new)

instance (old status : Status) (active settled : Bool) (new : Status) :
    Decidable (FairRequest old status active settled new) :=
  decidable_of_iff (_ ∧ _ ∧ _)
    ⟨fun ⟨started, onward, stopping⟩ => ⟨started, onward, stopping⟩,
     fun ⟨started, onward, stopping⟩ => ⟨started, onward, stopping⟩⟩

def answersFairly (old status : Status) (active settled : Bool) : Bool :=
  let signal := Machine.Workflow.requestSignal (.workflow status) active settled
  !Signal.workflowSignals.contains signal ||
    match Machine.Workflow.step old signal with
    | .ok answer =>
      let new := answer.getD old
      decide (FairRequest old status active settled new) ||
        (new == old && status != old && !Conductor.isPending status old new)
    | .error _ => false

theorem answersFairly_of_begun : ∀ old ∈ begun, ∀ status ∈ Status.all, ∀ active settled,
    answersFairly old status active settled = true := by
  decide +kernel

theorem isKnown_of_requestSignal {active settled : Bool}
    (known : Machine.Workflow.requestSignal (.workflow status) active settled ∈
      Signal.workflowSignals) : status.isKnown = true := by
  have speaks : ∀ signal ∈ Signal.workflowSignals,
      Machine.Workflow.speaksOfKnown signal = true := by decide
  cases status with
  | missing | unknown => cases settled <;> exact speaks _ known
  | _ => rfl

theorem fairRequest_of_step {old status : Status} {active settled : Bool} {answer : Option Status}
    (started : old ∈ begun)
    (known : Machine.Workflow.requestSignal (.workflow status) active settled ∈
      Signal.workflowSignals)
    (led : Machine.Workflow.step old
      (Machine.Workflow.requestSignal (.workflow status) active settled) = .ok answer)
    (fine : answer.getD old = old → status = old ∨
      Conductor.isPending status old (answer.getD old) = true) :
    FairRequest old status active settled (answer.getD old) := by
  have inAll : status ∈ Status.all := by simpa [Status.isKnown] using isKnown_of_requestSignal known
  have fair := answersFairly_of_begun old started status inAll active settled
  simp only [answersFairly, led, List.contains_iff_mem.mpr known, Bool.not_true, Bool.false_or,
    Bool.or_eq_true,
    decide_eq_true_eq, Bool.and_eq_true, beq_iff_eq, bne_iff_ne, Bool.not_eq_true'] at fair
  rcases fair with fair | ⟨⟨same, unlike⟩, notPending⟩
  · exact fair
  · rcases fine same with equal | pending
    · exact (unlike equal).elim
    · cases notPending.symm.trans pending

/-- Entries that are told of a request change their status, and nothing else; only a stop changes
it. -/
theorem told_eq (tells : Relation.ReflTransGen (Tells status) s t) :
    t.status = s.status ∧ t.tasks = s.tasks ∧ t.places = s.places ∧
      (status.isStop = false → t = s) := by
  induction tells with
  | refl => exact ⟨rfl, rfl, rfl, fun _ => rfl⟩
  | tail _ last ih =>
    obtain ⟨index, entry, scope, new, -, led, rfl⟩ := last
    obtain ⟨sameStatus, tasks, places, -⟩ := ih
    refine ⟨sameStatus, tasks, (places_updateEntry (by intro _; rfl) _ index).trans places,
      fun noStop => ?_⟩
    cases noStop.symm.trans (Machine.Task.stop_of_step led).1

theorem Requested.underway (requested : Requested status s t) (underway : s.Underway) :
    t.Underway := by
  obtain ⟨told, answer, tells, known, led, rfl, fine⟩ := requested
  obtain ⟨sameStatus, tasks, places, unchanged⟩ := told_eq tells
  rw [← sameStatus] at fine
  have fair := fairRequest_of_step (sameStatus ▸ underway.started) known led fine
  refine ⟨fair.started, ?_, ⟨fun onward => ?_, fun stopping => ?_⟩⟩
  · change Indexed told.tasks told.places
    rw [tasks, places]
    exact underway.indexed
  · change told.hasActive = true ∨ told.hasReady = true ∨ told.hasPaused = true
    obtain ⟨noStop, before⟩ := fair.onward onward
    cases unchanged noStop
    rcases before with before | ⟨paused, unsettled⟩
    · simp only [List.mem_cons, List.not_mem_nil, or_false] at before
      rcases before with running | resuming | pausing
      · exact underway.progressing.onward (.inl running)
      · exact underway.progressing.onward (.inr resuming)
      · exact .inl (underway.progressing.stopping (.inl pausing))
    · have left : s.hasActive = false → s.hasReady = false → s.hasPaused = true := by
        simpa [paused] using unsettled
      cases active : s.hasActive with
      | true => exact .inl rfl
      | false =>
        cases ready : s.hasReady with
        | true => exact .inr (.inl rfl)
        | false => exact .inr (.inr (left active ready))
  · rcases fair.stopping stopping with active | ⟨noStop, same⟩
    · exact active
    · cases unchanged noStop
      exact underway.progressing.stopping (same ▸ stopping)

theorem KeptOrFailed.underway (kept : KeptOrFailed s t) (underway : s.Underway) : t.Underway := by
  rcases kept with rfl | rfl
  · exact underway
  · exact ⟨show Status.failed ∈ begun by decide, underway.indexed, progressing_of_failed rfl⟩

end State

end Orchestration
