import Orchestration.Proofs.Ending
import Orchestration.Proofs.Progress

/-!
Workflows that come to rest.

A workflow succeeds when nothing is left of it: no task is active, paused or pending, and none can
be started. It is paused or canceled when no task is active. So it is when the workflow follows a
task or its host. What else is done in the same call is to carry out commands, and a command leaves
nothing behind for which a workflow has to wait.
-/

namespace Orchestration

def Status.awaited : List Status := Status.active ++ [.paused, .pending]

namespace State

variable {s t u : State} {task : String} {route index : Nat} {e : Event} {g : Graph}
  {old new status : Status} {reaction : Reaction} {answer : Option Nat}
  {statuses : List Status}

def NoneIs (s : State) (statuses : List Status) : Prop :=
  ∀ index entry, s.isLatest index = true → s.sequence[index]? = some entry → entry.status ∉ statuses

def NoneReady (s : State) : Prop := ∀ x ∈ s.staged, x.isReady = false

structure Quiescent (s : State) : Prop where
  awaited : s.NoneIs Status.awaited
  ready : s.NoneReady

def RestsAs (s : State) : Status → Prop
  | .succeeded => s.Quiescent
  | .paused | .canceled => s.NoneIs Status.active
  | _ => True

/-- The workflow keeps its status, or comes to another one only when that can be. -/
def Settles (s t : State) : Prop := t.status = s.status ∨ t.RestsAs t.status

theorem noneIs_iff : s.NoneIs statuses ↔ s.hasLatest statuses = false := by
  rw [← Bool.not_eq_true, hasLatest_iff]
  constructor
  · rintro none ⟨index, entry, latest, found, holds⟩
    exact none index entry latest found holds
  · exact fun none index entry latest found holds => none ⟨index, entry, latest, found, holds⟩

theorem noneReady_iff : s.NoneReady ↔ s.hasReady = false := by
  simp [NoneReady, hasReady, ready]

theorem NoneIs.mono {few many : List Status} (none : s.NoneIs many) (within : few ⊆ many) :
    s.NoneIs few :=
  fun index entry latest found holds => none index entry latest found (within holds)

theorem quiescent_iff :
    s.Quiescent ↔ s.hasActive = false ∧ s.hasPaused = false ∧ s.hasReady = false := by
  rw [hasActive, hasPaused, ← noneIs_iff, ← noneIs_iff, ← noneReady_iff]
  constructor
  · exact fun quiescent => ⟨quiescent.awaited.mono (by decide), quiescent.awaited.mono (by decide),
      quiescent.ready⟩
  · rintro ⟨active, paused, ready⟩
    refine ⟨fun index entry latest found holds => ?_, ready⟩
    rcases List.mem_append.mp holds with holds | holds
    · exact active index entry latest found holds
    · exact paused index entry latest found holds

theorem restsAs_of {word : Status} (succeeded : word = .succeeded → s.Quiescent)
    (stopped : word = .paused ∨ word = .canceled → s.hasActive = false) : s.RestsAs word := by
  cases word with
  | succeeded => exact succeeded rfl
  | paused => exact noneIs_iff.mpr (stopped (.inl rfl))
  | canceled => exact noneIs_iff.mpr (stopped (.inr rfl))
  | _ => trivial

theorem RestsAs.restate {word : Status} (rests : s.RestsAs word) (status : Status) :
    { s with status := status }.RestsAs word := by
  cases word with
  | succeeded => exact ⟨rests.awaited, rests.ready⟩
  | _ => exact rests

theorem restsAs_sketch {word : Status} : s.sketch.RestsAs word ↔ s.RestsAs word := by
  cases word with
  | succeeded =>
    simp only [RestsAs, quiescent_iff, hasActive, hasPaused, hasLatest_sketch, hasReady_sketch]
  | paused | canceled => simp only [RestsAs, noneIs_iff, hasLatest_sketch]
  | _ => exact .rfl

theorem settles_sketch : Settles s.sketch t.sketch ↔ Settles s t := by
  unfold Settles
  rw [status_sketch, status_sketch, restsAs_sketch]

theorem Settles.of_failed (failed : t.status = .failed) : Settles s t := .inr (failed ▸ trivial)

/-- A workflow that has failed in between may come to any rest. -/
theorem Settles.head (kept : u.status = s.status ∨ u.status = .failed) (settles : Settles u t) :
    Settles s t := by
  rcases settles with same | rests
  · rcases kept with keptStatus | failed
    · exact .inl (same.trans keptStatus)
    · exact .of_failed (same.trans failed)
  · exact .inr rests

/-! ### Commands -/

/-- Whatever the workflow waits for or can start is nothing new. -/
structure Calms (s t : State) : Prop where
  latest : ∀ statuses ⊆ Status.awaited, s.NoneIs statuses → t.NoneIs statuses
  staged : ∀ y ∈ t.staged, ∃ x ∈ s.staged, y = x ∨ y = { x with completed := true }

theorem Calms.refl (s : State) : Calms s s :=
  ⟨fun _ _ none => none, fun x staged => ⟨x, staged, .inl rfl⟩⟩

theorem Calms.trans (first : Calms s t) (second : Calms t u) : Calms s u where
  latest statuses within none := second.latest statuses within (first.latest statuses within none)
  staged z staged := by
    obtain ⟨y, stagedThen, stays⟩ := second.staged z staged
    obtain ⟨x, stagedBefore, stayed⟩ := first.staged y stagedThen
    refine ⟨x, stagedBefore, ?_⟩
    rcases stays with rfl | rfl
    · exact stayed
    · rcases stayed with rfl | rfl <;> exact .inr rfl

theorem Calms.of_eq (sequence : t.sequence = s.sequence) (tasks : t.tasks = s.tasks)
    (staged : ∀ y ∈ t.staged, ∃ x ∈ s.staged, y = x ∨ y = { x with completed := true }) :
    Calms s t where
  latest statuses _ none index entry latest found := by
    rw [isLatest, tasks] at latest
    exact none index entry latest (sequence ▸ found)
  staged := staged

theorem Calms.ready (calms : Calms s t) (none : s.NoneReady) : t.NoneReady := by
  intro y staged
  obtain ⟨x, stagedBefore, rfl | rfl⟩ := calms.staged y staged
  · exact none y stagedBefore
  · exact Bool.and_false _

theorem Calms.quiescent (calms : Calms s t) (quiescent : s.Quiescent) : t.Quiescent :=
  ⟨calms.latest _ (List.Subset.refl _) quiescent.awaited, calms.ready quiescent.ready⟩

theorem Calms.restsAs {word : Status} (calms : Calms s t) (rests : s.RestsAs word) :
    t.RestsAs word := by
  cases word with
  | succeeded => exact calms.quiescent rests
  | paused | canceled => exact calms.latest _ (List.subset_append_left ..) rests
  | _ => trivial

theorem Settles.trans (first : Settles s u) (calms : Calms u t) (second : Settles u t) :
    Settles s t := by
  rcases second with same | rests
  · rcases first with keptStatus | rests
    · exact .inl (same.trans keptStatus)
    · exact .inr (same ▸ calms.restsAs rests)
  · exact .inr rests

theorem calms_unstage (s : State) (task : String) (route : Nat) : Calms s (s.unstage task route) :=
  .of_eq (sequence_unstage ..) (tasks_unstage ..) fun x staged => ⟨x, mem_unstage staged, .inl rfl⟩

theorem calms_shelved (s : State) (task : String) (route : Nat) (e : Event) :
    Calms s (s.shelved task route e) := by
  unfold shelved
  split
  · split
    · exact calms_unstage s task route
    · exact .refl s
  · exact .refl s

theorem Leaves.calms (leaves : Leaves task route s t) : Calms s t := by
  cases leaves with
  | leave => exact calms_unstage s task route
  | keep =>
    refine .of_eq rfl rfl fun y staged => ?_
    rcases mem_updateStaged staged with before | ⟨x, before, -, rfl⟩
    · exact ⟨y, before, .inl rfl⟩
    · exact ⟨x, before, .inr rfl⟩

theorem calms_addEntry (s : State) (task : String) (route : Nat) :
    Calms s (s.addEntry (freshEntry task route)) where
  latest statuses within none index entry latest found holds := by
    by_cases new : index = s.sequence.length
    case pos =>
      obtain rfl : freshEntry task route = entry := by simpa [addEntry, new] using found
      exact absurd (within holds) (show Status.missing ∉ Status.awaited by decide)
    case neg =>
      obtain ⟨item, among, same⟩ := List.any_eq_true.mp latest
      rcases mem_putNamed among with rfl | before
      · exact new (eq_of_beq same).symm
      · have bound : index < s.sequence.length := by
          have := (List.getElem?_eq_some_iff.mp found).1
          simp only [addEntry, List.length_append, List.length_singleton] at this
          omega
        rw [addEntry, List.getElem?_append_left bound] at found
        exact none index entry (List.any_eq_true.mpr ⟨item, before, same⟩) found holds
  staged x staged := ⟨x, staged, .inl rfl⟩

/-- A command that is told of is about an entry of its own. -/
theorem Takes.calms {command : Command} (named : Command.isName task = true)
    (takes : Takes task route (.command command) s answer t) :
    Calms s t ∧ ∀ index, answer = some index →
      t.sequence[index]? = some (freshEntry task route) := by
  have opened {index : Nat} {opened : State}
      (opens : Opened task route (.command command) s index opened) :
      Calms s (opened.shelved task route (.command command)) ∧
        (opened.shelved task route (.command command)).sequence[index]? = some
        (freshEntry task route) := by
    rcases opens with ⟨-, -, other, -⟩ | ⟨rfl, rfl⟩
    · exact Bool.noConfusion (other.symm.trans named)
    · refine ⟨(calms_addEntry s task route).trans (calms_shelved ..), ?_⟩
      rw [sequence_shelved, addEntry, List.getElem?_concat_length]
  cases takes with
  | refuse => exact ⟨.refl s, fun _ none => by cases none⟩
  | cut opens => exact ⟨(opened opens).1, fun _ none => by cases none⟩
  | plain opens =>
    refine ⟨(opened opens).1, fun _ same => ?_⟩
    cases same
    exact (opened opens).2
  | item _ kind => cases kind

theorem Turns.of_fresh {command : Command}
    (fresh : s.sequence[index]? = some (freshEntry task route))
    (turns : Turns (.command command) index s old new t) :
    new ∈ [Status.missing, .succeeded, .failed] := by
  cases turns with
  | turn found led =>
    cases found.symm.trans fresh
    obtain ⟨signal, told, led⟩ := bind_eq_ok.mp led
    rw [signalFor_command told] at led
    cases command <;> cases led <;> simp [freshEntry, Machine.Row.next?, Machine.Row.follow]

theorem Turns.calms (turns : Turns e index s old new t) (done : new ∉ Status.awaited) :
    Calms s t where
  latest statuses within none i entry latest found holds := by
    by_cases here : i = index
    case pos =>
      subst here
      obtain ⟨-, ⟨_, same, rfl⟩, -⟩ := turns.entryAt
      cases same.symm.trans found
      exact done (within holds)
    case neg =>
      rw [isLatest, turns.tasks_eq] at latest
      rw [turns.getElem?_of_ne here] at found
      exact none i entry latest found holds
  staged x staged := ⟨x, turns.staged_eq ▸ staged, .inl rfl⟩

/-- A task that nothing follows, and that is not tried again, stages nothing. -/
theorem Reacts.calms (last : g.nextTransitions task = [])
    (once : new ≠ .retrying) (reacts : Reacts g task route index old new s reaction t) :
    Calms s t := by
  cases reacts with
  | cut | stay => exact .refl s
  | retry again => exact (once again).elim
  | leave _ leaves | again _ leaves | same _ _ leaves => exact leaves.calms
  | halt _ _ leaves onward =>
    rw [last] at onward
    cases onward
  | go _ _ leaves onward =>
    rw [last] at onward
    cases onward
    exact leaves.calms

theorem Followed.calms (followed : Followed g task route status s t) : Calms s t := by
  obtain ⟨_, rfl⟩ := followed.restates
  exact .of_eq rfl rfl fun x staged => ⟨x, staged, .inl rfl⟩

/-- A command that is carried out leaves nothing behind for which the workflow has to wait. -/
theorem Updates.calms (drawn : g.Drawn) (named : Command.isName task = true) :
    ∀ {depth : Nat} {command : Command} {s t : State},
      Updates g depth task route (.command command) s t → Calms s t
  | 0, _, s, _, rfl => .refl s
  | depth + 1, command, s, t, updates => by
    rcases updates with takes | ⟨index, taken, takes, updates⟩
    · exact (takes.calms named).1
    obtain ⟨calms, fresh⟩ := takes.calms named
    rcases updates with rfl | ⟨old, new, turned, turns, updates⟩
    · exact calms
    have last : g.nextTransitions task = [] := drawn.nextTransitions_command named
    obtain ⟨done, once⟩ : new ∉ Status.awaited ∧ new ≠ .retrying := by
      have all : ∀ new ∈ [Status.missing, .succeeded, .failed], new ∉ Status.awaited ∧
          new ≠ .retrying := by decide
      exact all new (turns.of_fresh (fresh index rfl))
    have reacted {reaction : Reaction} {u : State}
        (reacts : Reacts g task route index old new turned reaction u) : Calms s u :=
      (calms.trans (turns.calms done)).trans (reacts.calms last once)
    rcases updates with reacts | ⟨u, ⟨reacts, again⟩ | ⟨commands, reacts, ensues⟩⟩
    · exact reacted reacts
    · exact (reacted reacts).trans (Updates.calms drawn named again)
    · obtain rfl := reacts.commands_eq last
      rcases ensues.of_nil with rfl | ⟨_, follows⟩
      · exact reacted reacts
      · exact (reacted reacts).trans follows.calms

/-! ### Reports -/

theorem of_outlook_completed {next : Bool} (outlook : Conductor.outlook s next = .completed) :
    s.hasPaused = false ∧ s.hasReady = false := by
  unfold Conductor.outlook at outlook
  split at outlook
  · cases outlook
  · split at outlook
    · cases outlook
    case isFalse notPaused =>
      split at outlook
      · cases outlook
      case isFalse notReady => simp_all

theorem Followed.settles (followed : Followed g task route status s t) : Settles s t := by
  obtain ⟨around, answer, ⟨joins, next, -, -, rfl⟩, -, led, new, rfl, became⟩ := followed
  rcases became with rfl | ⟨_, -, -, rfl⟩
  case inr => exact .of_failed rfl
  cases answer with
  | none => exact .inl rfl
  | some new =>
    obtain ⟨stops, succeeds⟩ := Machine.Workflow.atRest_of_report led
    refine .inr (RestsAs.restate (restsAs_of (fun succeeded => ?_) stops) new)
    obtain ⟨idle, completed⟩ := succeeds succeeded
    exact quiescent_iff.mpr ⟨idle, of_outlook_completed completed⟩

theorem status_shelved (s : State) (task : String) (route : Nat) (e : Event) :
    (s.shelved task route e).status = s.status := by
  unfold shelved
  split
  · split
    · exact status_unstage s task route
    · rfl
  · rfl

theorem Opened.status_eq (opens : Opened task route e s index t) : t.status = s.status := by
  rcases opens with ⟨rfl, -⟩ | ⟨-, rfl⟩ <;> rfl

theorem Takes.status_eq (takes : Takes task route e s answer t) : t.status = s.status := by
  cases takes with
  | refuse => rfl
  | cut opens | plain opens => exact (status_shelved ..).trans opens.status_eq
  | item opens => exact opens.status_eq

theorem Turns.status_eq (turns : Turns e index s old new t) : t.status = s.status := by
  cases turns
  rfl

/-- Until the workflow follows its task, a report does not change its status, except that it may
fail. -/
theorem status_of_reacts {taken turned : State}
    (takes : Takes task route e s answer taken) (turns : Turns e index taken old new turned)
    (reacts : Reacts g task route index old new turned reaction t) :
    t.status = s.status ∨ t.status = .failed := by
  rw [← takes.status_eq, ← turns.status_eq]
  exact reacts.renoted.status

/-- A report brings a workflow to rest only when that can be, and so do the commands that follow
from it. -/
theorem Updates.settles (drawn : g.Drawn) :
    ∀ {depth : Nat} {task : String} {route : Nat} {e : Event} {s t : State},
    Updates g depth task route e s t → Settles s t
  | 0, _, _, _, _, _, rfl => .inl rfl
  | depth + 1, task, route, e, s, t, updates => by
    rcases updates with takes | ⟨index, taken, takes, rfl | ⟨old, new, turned, turns, updates⟩⟩
    · exact .inl takes.status_eq
    · exact .inl takes.status_eq
    rcases updates with reacts | ⟨u, ⟨reacts, again⟩ | ⟨commands, reacts, ensues⟩⟩
    · exact .head (status_of_reacts takes turns reacts) (.inl rfl)
    · exact .head (status_of_reacts takes turns reacts) (Updates.settles drawn again)
    · refine .head (status_of_reacts takes turns reacts) ?_
      rcases ensues with rfl | ⟨_, followed, done, follows, -, chained⟩
      · exact .inl rfl
      · refine chained.keep (Settles u) (fun next middle last settles updates => ?_) follows.settles
        exact settles.trans (updates.calms drawn (Command.isName_name next.1))
          (updates.settles drawn)

/-! ### Requests -/

theorem Requested.settles (requested : Requested status s t) :
    Settles s t ∨ (status = .succeeded ∧ t.status = .succeeded) := by
  obtain ⟨told, answer, tells, -, led, rfl, -⟩ := requested
  have same : told.status = s.status := (told_eq tells).1
  cases answer with
  | none => exact .inl (.inl same)
  | some new =>
    obtain ⟨stops, succeeds⟩ := Machine.Workflow.atRest_of_request led
    by_cases asked : status = .succeeded ∧ new = .succeeded
    case pos => exact .inr asked
    case neg =>
      refine .inl (.inr (RestsAs.restate (restsAs_of (fun succeeded => ?_) stops) new))
      have settled := (succeeds succeeded).resolve_left fun same => asked ⟨same, succeeded⟩
      simp only [Bool.and_eq_true, Bool.not_eq_true'] at settled
      exact quiescent_iff.mpr ⟨settled.1.1.2, settled.2, settled.1.2⟩

theorem Offered.status_cases (offered : Offered s t) :
    t.status = s.status ∨ t.status = .failed := by
  obtain ⟨begun, begins, kept⟩ := offered
  rcases kept with rfl | rfl
  · exact .inl (status_of_begins begins)
  · exact .inr rfl

theorem Move.status_cases (move : Move s t) : t.status = s.status ∨ t.status = .failed ∨
    ∃ signal, Machine.Workflow.step s.status signal = .ok (some t.status) := by
  cases move with
  | quiet quiet =>
    rw [← status_outline t, quiet.outline_eq]
    exact .inl rfl
  | become signal new led => exact .inr (.inr ⟨signal, led⟩)
  | fail => exact .inr (.inl rfl)
  | unstage task route => exact .inl (status_unstage ..)
  | branch | advance | note | close | add | stage | restage | rerun => exact .inl rfl

end State

namespace Conductor

open Conducting (Ends)

variable {c d : Conductor} {op : Operation}

/-! ### Other calls -/

theorem Moves.status_of_completed (moves : Moves c d)
    (completed : c.state.status.isCompleted = true) :
    d.state.status = c.state.status ∨ d.state.status = .failed := by
  refine moves.keepState (fun s => s.status = c.state.status ∨ s.status = .failed) ?_ (.inl rfl)
  intro s t move kept
  have completedNow : s.status.isCompleted = true := by
    rcases kept with same | failed
    · exact same ▸ completed
    · exact failed ▸ rfl
  rcases move.status_cases with same | failed | ⟨_, led⟩
  · exact same ▸ kept
  · exact .inr failed
  · exact .inr (Machine.Workflow.eq_failed_of_step completedNow led)

theorem renderOutput_status [Engine] (charted : c.Charted) :
    (Conducting.after renderOutput c).state.status = c.state.status ∨
      (Conducting.after renderOutput c).state.status = .failed := by
  cases completed : c.state.status.isCompleted with
  | true => exact (renderOutput_runs fun _ => charted.grounded).kept.status_of_completed completed
  | false =>
    have stays : Ends renderOutput c (fun _ d => d = c) fun d => d = c := by
      unfold renderOutput
      refine .bind_getState (.bind_get ?_)
      rw [completed]
      exact .pure rfl
    have unchanged : Conducting.after renderOutput c = c :=
      stays.after (fun _ _ same => same) fun _ same => same
    exact .inl (by rw [unchanged])

/-- A workflow in which some tasks are to be run again resumes, or nothing comes of it. -/
theorem requestRerun_status [Engine] (charted : c.Charted) (requests : List Rerun) :
    let d := Conducting.after (requestRerun requests) c
    d.state.status = c.state.status ∨ d.state.status = .failed ∨ d.state.status = .resuming := by
  cases completed : c.state.status.isCompleted with
  | true =>
    obtain ⟨d, moves, same | resumed⟩ := requestRerun_after charted.grounded requests
    · rw [same]
      exact (moves.status_of_completed completed).imp_right .inl
    · rw [resumed]
      exact .inr (.inr rfl)
  | false =>
    have refused : Ends (prepareReruns requests) c (fun _ _ => False) fun d => d = c := by
      unfold prepareReruns
      refine .bind_getState ?_
      rw [completed]
      exact .throw _ rfl
    have resumes : Ends (requestRerun requests) c (fun _ d => d = c) fun d => d = c :=
      .bind refused fun _ _ never => never.elim
    have unchanged : Conducting.after (requestRerun requests) c = c :=
      resumes.after (fun _ _ same => same) fun _ same => same
    exact .inl (by rw [unchanged])

theorem Stillborn.requestRerun_status [Engine] (stillborn : c.Stillborn) (requests : List Rerun) :
    let d := Conducting.after (requestRerun requests) c
    d.state.status = .failed ∨ d.state.status = .resuming := by
  have prepared : Ends (prepareReruns requests) c (fun _ _ => True) fun d =>
      d.state.status = .failed := by
    unfold prepareReruns
    refine .bind_getState ?_
    dsimp only
    split
    · exact .throw _ stillborn.status
    refine .bind_getState ?_
    split
    · exact .throw _ stillborn.status
    refine .bind_modifyState _ ?_
    have none (indices : List Nat) : indices.filterMap (c.state.sequence[·]?) = [] := by
      simp [stillborn.sequence]
    have nothing : sortEntries [] = [] := List.mergeSort_nil
    have cleared (indices : List Nat) (d : Conductor) :
        Ends (clearTerminal indices) d (fun _ _ => True) fun e => e.state.status = .failed :=
      .forM (fun _ _ => True) trivial fun _ _ _ _ => .of_modifyState _ trivial
    rw [none, nothing]
    refine .bind_of_result (Conducting.result_pure _ _)
      (.bind_getState (.bind (cleared _ _) fun _ d _ => ?_))
    exact .of_result (Conducting.result_modify _ _) trivial
  have resumes : Ends (requestRerun requests) c (fun _ d => d.state.status = .resuming)
      fun d => d.state.status = .failed := .bind prepared fun _ d _ => .of_modifyState _ rfl
  let Left : Conductor → Prop := fun d => d.state.status = .failed ∨ d.state.status = .resuming
  suffices Left (Conducting.after (requestRerun requests) c) from this
  exact resumes.after (fun _ _ resumed => .inr resumed) fun _ failed => .inl failed

/-! ### Calls -/

theorem Charted.settles_apply [Engine] (charted : c.Charted) (op : Operation) :
    State.Settles c.state (op.apply c).state ∨
      (op = .request .succeeded ∧ (op.apply c).state.status = .succeeded) := by
  unfold Operation.apply
  cases op with
  | request status =>
    rw [Operation.run, Conducting.after_bind_pure]
    let Left : Conductor → Prop := fun d => State.Settles c.state d.state ∨
      (Operation.request status = .request .succeeded ∧ d.state.status = .succeeded)
    suffices Left (Conducting.after (requestStatus status) c) from this
    refine ((requestStatus_ends c status).with_moves (requestStatus_runs c status)).after ?_ ?_
    · rintro _ d ⟨-, requested, -⟩
      exact requested.settles.imp_right fun asked => ⟨congrArg _ asked.1, asked.2⟩
    · exact fun d tells => .inl (.inl (State.told_eq tells).1)
  | next =>
    rw [Operation.run, Conducting.after_bind_pure]
    rcases (nextTasks_offered charted.grounded).status_cases with same | failed
    · exact .inl (.inl same)
    · exact .inl (.of_failed failed)
  | update task route report =>
    rw [Operation.run, Conducting.after_bind_pure]
    obtain ⟨g, known, drawn⟩ := charted.drawn
    have updates := updates_after updateDepth task route charted.grounded report.known known
    exact .inl (State.settles_sketch.mp (updates.settles drawn))
  | rerun requests =>
    rw [Operation.run, Conducting.after_bind_pure]
    rcases requestRerun_status charted requests with same | failed | resumed
    · exact .inl (.inl same)
    · exact .inl (.of_failed failed)
    · exact .inl (.inr (resumed ▸ trivial))
  | render =>
    rw [Operation.run, Conducting.after_bind_pure]
    rcases renderOutput_status charted with same | failed
    · exact .inl (.inl same)
    · exact .inl (.of_failed failed)
  | reload =>
    rw [Operation.run, Conducting.after_bind_pure]
    exact .inl (State.settles_sketch.mp (.inl (congrArg State.status charted.reload.2)))

theorem Stillborn.settles_apply [Engine] (stillborn : c.Stillborn) (op : Operation) :
    State.Settles c.state (op.apply c).state := by
  cases rerun : op.isRerun with
  | false => exact .of_failed (stillborn.apply rerun).status
  | true =>
    cases op with
    | rerun requests =>
      rw [Operation.apply, Operation.run, Conducting.after_bind_pure]
      rcases stillborn.requestRerun_status requests with failed | resumed
      · exact .of_failed failed
      · exact .inr (resumed ▸ trivial)
    | _ => cases rerun

/-- Workflows that come to rest have nothing left to wait for. When a workflow comes to succeed, and
its host has not asked for just that, no task is active, paused or pending, and none can be started.
When it comes to be paused or canceled, no task is active. So it is whatever the host has asked
before, short of a rerun, and whether the call by which it happens succeeds or fails. -/
theorem settled_of_apply [Engine] {spec : Spec} {parent input : Value} {ops : List Operation}
    (made : make spec parent input = .ok c) (host : ∀ op ∈ ops, op.isRerun = false) (op : Operation)
    (changed : (op.apply (c.afterAll ops)).state.status ≠ (c.afterAll ops).state.status) :
    ((op.apply (c.afterAll ops)).state.status = .succeeded → op ≠ .request .succeeded →
      (op.apply (c.afterAll ops)).state.Quiescent) ∧
    ((op.apply (c.afterAll ops)).state.status = .paused ∨
      (op.apply (c.afterAll ops)).state.status = .canceled →
      (op.apply (c.afterAll ops)).state.NoneIs Status.active) := by
  have settles : State.Settles (c.afterAll ops).state (op.apply (c.afterAll ops)).state ∨
      (op = .request .succeeded ∧ (op.apply (c.afterAll ops)).state.status = .succeeded) := by
    rcases charted_or_stillborn made with charted | stillborn
    · exact (charted.afterAll host).1.settles_apply op
    · exact .inl ((stillborn.afterAll host).settles_apply op)
  generalize (op.apply (c.afterAll ops)).state = after at changed settles ⊢
  rcases settles with (same | rests) | ⟨asked, succeeded⟩
  · exact (changed same).elim
  · refine ⟨fun succeeded _ => ?_, ?_⟩
    · rw [succeeded] at rests
      exact rests
    · rintro (paused | canceled)
      · rw [paused] at rests
        exact rests
      · rw [canceled] at rests
        exact rests
  · refine ⟨fun _ other => (other asked).elim, ?_⟩
    rintro (paused | canceled)
    · cases succeeded.symm.trans paused
    · cases succeeded.symm.trans canceled

/-- The first task is done, and the second one is under way. -/
def nearlyDone : List Operation :=
  [.request .running, .update "first" 0 Sample.started, .update "first" 0 Sample.succeeded,
   .update "second" 0 Sample.started]

/-- The first task is under way, and the workflow is to pause. -/
def nearlyPaused : List Operation :=
  [.request .running, .update "first" 0 Sample.started, .request .paused]

theorem settled_of_apply_sample : ∃ spec c succeeded paused,
    Spec.make .workflow Sample.workflow = .ok spec ∧ make spec .null .null = .ok c ∧
    (∀ op ∈ nearlyDone ++ nearlyPaused, op.isRerun = false) ∧
    (c.afterAll nearlyDone).state.status = .running ∧
    (Operation.update "second" 0 Sample.succeeded).apply (c.afterAll nearlyDone) = succeeded ∧
    succeeded.state.status = .succeeded ∧ succeeded.state.Quiescent ∧
    (c.afterAll nearlyPaused).state.status = .pausing ∧
    (Operation.update "first" 0 Sample.succeeded).apply (c.afterAll nearlyPaused) = paused ∧
    paused.state.status = .paused ∧ paused.state.NoneIs Status.active := by
  obtain ⟨spec, c, specified, made, statuses⟩ := exists_make_of_any (p := fun _ c =>
    [(c.afterAll nearlyDone).state.status,
      ((Operation.update "second" 0 Sample.succeeded).apply (c.afterAll nearlyDone)).state.status,
      (c.afterAll nearlyPaused).state.status,
      ((Operation.update "first" 0 Sample.succeeded).apply
        (c.afterAll nearlyPaused)).state.status] == [Status.running, .succeeded, .pausing, .paused])
    (show (Spec.make .workflow Sample.workflow).toOption.any _ = true by decide +kernel)
  simp only [beq_iff_eq, List.cons.injEq, and_true] at statuses
  obtain ⟨running, succeeds, pausing, pauses⟩ := statuses
  have host : ∀ op ∈ nearlyDone ++ nearlyPaused, op.isRerun = false := by
    simp [nearlyDone, nearlyPaused, Operation.isRerun]
  have done := settled_of_apply made (fun op among => host op (List.mem_append_left _ among))
    (.update "second" 0 Sample.succeeded) (by rw [running, succeeds]; decide)
  have stopped := settled_of_apply made (fun op among => host op (List.mem_append_right _ among))
    (.update "first" 0 Sample.succeeded) (by rw [pausing, pauses]; decide)
  exact ⟨spec, c, _, _, specified, made, host, running, rfl, succeeds, done.1 succeeds (by simp),
    pausing, rfl, pauses, stopped.2 (.inl pauses)⟩

end Conductor

end Orchestration
