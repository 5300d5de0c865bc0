import Orchestration.Proofs.Course.Item
import Orchestration.Proofs.Ending

/-!
What hosts' calls leave of a task that they are not about.

Nothing happens to its latest entry, unless the workflow is to stop. What is staged for it stays,
unless the task is reached again by one that is completed then, or is offered for the first time.
And no call, whatever it is about, gives an account of retries to a task that is tried once only.
-/

namespace Orchestration

open Relation (ReflTransGen)

namespace Operation

def isStop : Operation → Bool
  | .request status => status.isStop
  | _ => false

def item (task : String) (route i : Nat) (status : Status) (result accumulated : Value)
    (known : status.IsWord) : Operation :=
  .update task route ⟨.item (.int i) status result accumulated, known⟩

end Operation

namespace State

variable {s t u : State} {task : String} {route : Nat}

/-- A task is reached from one that is completed now, and nothing is known of its items. -/
def Reaches (s t : State) (task : String) (route : Nat) : Prop :=
  Completes s t task ∧ ∃ x, t.staged? task route = some x ∧ x.items = none

theorem not_reaches_of_items (known : (t.staged? task route).any (·.items.isSome) = true) :
    ¬Reaches s t task route := by
  rintro ⟨-, x, found, unknown⟩
  rw [found, Option.any_some, unknown] at known
  cases known

theorem reaches_of_batches {b : Batch} {rest : List Batch} (completes : Completes s t task)
    (staged : t.batches task route = b :: rest) (unknown : b.items = none) :
    Reaches s t task route := by
  obtain ⟨x, found, rfl⟩ := staged?_of_batches staged
  exact ⟨completes, x, found, unknown⟩

theorem Completes.of_sketch (completes : Completes s.sketch t.sketch task) :
    Completes s t task := by
  obtain ⟨index, _, found, completed, fresh, went⟩ := completes
  rw [getElem?_sketch] at found
  obtain ⟨entry, there, rfl⟩ := Option.map_eq_some_iff.mp found
  refine ⟨index, entry, there, completed, fun old before => ?_, went⟩
  exact fresh old.outline (by rw [getElem?_sketch, before]; rfl)

theorem reaches_of_sketch (refreshed : Refreshed task route s.sketch t.sketch)
    (completes : Completes s.sketch t.sketch task) : Reaches s t task route := by
  obtain ⟨_, unknown, staged⟩ := refreshed
  rw [batches_sketch] at staged
  exact reaches_of_batches completes.of_sketch staged unknown

/-! ### Requests and offers -/

theorem Asked.bystanding {status : Status} (asked : Asked status s t) (task : String)
    (route : Nat) :
    t.index? task route = s.index? task route ∧
      (status.isStop = false → SameLatest task route s t) ∧
      t.batches task route = s.batches task route := by
  obtain ⟨told, word, tells, rfl⟩ := asked
  obtain ⟨-, tasks, -, unchanged⟩ := told_eq tells
  have staged : told.staged = s.staged := by
    clear tasks unchanged
    induction tells with
    | refl => rfl
    | tail _ tells ih => exact tells.staged_eq.trans ih
  refine ⟨by rw [index?, index?, ← tasks], fun goesOn => ?_, batches_of_staged staged⟩
  cases unchanged goesOn
  exact .of_eq rfl rfl

theorem Begins.batches (begins : Begins s t)
    (known : ∀ b ∈ (s.batches task route).head?, b.items.getD [] ≠ []) :
    t.batches task route = s.batches task route := by
  cases begins with
  | begin other way count =>
    by_cases here : (other, way) = (task, route)
    case neg => exact batches_begin_of_ne here count
    case pos =>
      cases here
      rw [batches_begin]
      cases staged : s.batches task route with
      | nil => rfl
      | cons b rest =>
        rw [staged] at known
        have nonempty : b.items.getD [] ≠ [] := known b rfl
        simp [Batch.begin, nonempty]

theorem Offered.bystanding (offered : Offered s t) (task : String) (route : Nat) :
    SameLatest task route s t ∧
      ((∀ b ∈ (s.batches task route).head?, b.items.getD [] ≠ []) →
        t.batches task route = s.batches task route) := by
  obtain ⟨begun, begins, kept⟩ := offered
  have entries : SameLatest task route s begun := by
    clear kept
    induction begins with
    | refl => exact .refl s
    | tail _ begins ih =>
      cases begins
      exact ih.trans (.of_eq rfl rfl)
  have staged (known : ∀ b ∈ (s.batches task route).head?, b.items.getD [] ≠ []) :
      begun.batches task route = s.batches task route := by
    clear kept entries
    induction begins with
    | refl => rfl
    | tail _ begins ih =>
      exact (begins.batches (by rw [ih]; exact known)).trans ih
  rcases kept with rfl | rfl
  · exact ⟨entries, staged⟩
  · exact ⟨entries.trans (.of_eq rfl rfl), fun known => (batches_of_staged rfl).trans
      (staged known)⟩

/-! ### Accounts of retries -/

theorem tasks_opened (context : Node) (roots : List Vertex) :
    (opened context roots).tasks = [] := by
  suffices general : ∀ s : State, (roots.foldl stageRoot s).tasks = s.tasks from general _
  induction roots with
  | nil => exact fun _ => rfl
  | cons v rest ih => exact fun s => ih (s.stageRoot v)

theorem unaccounted_reread {index : Nat} (unaccounted : s.Unaccounted index) :
    s.reread.Unaccounted index := by
  have none : s.reread.sequence.map (·.retry.isNone) = s.sequence.map (·.retry.isNone) := by
    refine (map_numberFrom (by intro e _; exact Option.isNone_map ..) s.writtenSequence 1).trans ?_
    unfold writtenSequence
    split
    · rw [List.map_map]
      exact List.map_congr_left fun e _ => Option.isNone_map ..
    · rfl
  obtain ⟨e, found, unretried⟩ := unaccounted
  have there : (s.reread.sequence.map (·.retry.isNone))[index]? = some true := by
    rw [none, List.getElem?_map, found, Option.map_some, unretried]
    rfl
  rw [List.getElem?_map] at there
  obtain ⟨e, found, none⟩ := Option.map_eq_some_iff.mp there
  exact ⟨e, found, Option.isNone_iff_eq_none.mp none⟩

/-! ### Items -/

def Tracks (s : State) (task : String) (route : Nat) (items : List Status) : Prop :=
  ∃ b rest, s.batches task route = b :: rest ∧ b.items = some items

theorem tracks_iff {items : List Status} :
    s.Tracks task route items ↔ ∃ x, s.staged? task route = some x ∧ x.items = some items := by
  constructor
  · rintro ⟨b, rest, staged, tracked⟩
    obtain ⟨x, found, rfl⟩ := staged?_of_batches staged
    exact ⟨x, found, tracked⟩
  · rintro ⟨x, found, tracked⟩
    have head := head?_batches s task route
    rw [found, Option.map_some] at head
    obtain ⟨rest, staged⟩ := List.head?_eq_some_iff.mp head
    exact ⟨x.batch, rest, staged, tracked⟩

/-- The status that an event finds: that of the latest entry of its task, or none if it opens a new
entry. -/
def foundStatus (s : State) (task : String) (route : Nat) (status : Status) : Status :=
  match s.latest? task route with
  | some entry => if entry.isCompleted && status.isStarting then .missing else entry.status
  | none => .missing

theorem foundStatus_of_latest {entry : Entry} {status : Status}
    (latest : s.latest? task route = some entry)
    (goesOn : (entry.isCompleted && status.isStarting) = false) :
    s.foundStatus task route status = entry.status := by
  simp only [foundStatus, latest, goesOn, Bool.false_eq_true, if_false]

def latestStatus? (s : State) (task : String) (route : Nat) : Option Status :=
  (s.latest? task route).map (·.status)

theorem foundStatus_of_status {old status : Status} (latest : s.latestStatus? task route = some old)
    (open_ : old.isCompleted = false) : s.foundStatus task route status = old := by
  obtain ⟨entry, found, rfl⟩ := Option.map_eq_some_iff.mp latest
  exact foundStatus_of_latest found (by rw [show entry.isCompleted = false from open_]; rfl)

theorem latest?_sketch (s : State) (task : String) (route : Nat) :
    s.sketch.latest? task route = (s.latest? task route).map Entry.outline := by
  unfold latest?
  rw [index?_sketch]
  cases s.index? task route with
  | none => rfl
  | some i => exact getElem?_sketch s i

theorem SameLatest.status_eq (same : SameLatest task route s.sketch t.sketch) :
    t.latestStatus? task route = s.latestStatus? task route := by
  have latest := congrArg (Option.map Entry.status) same.latest_eq
  rw [latest?_sketch, latest?_sketch, Option.map_map, Option.map_map] at latest
  exact latest

theorem Opened.foundStatus_eq {e : Event} {index : Nat} {before : Entry}
    (opens : Opened task route e s.sketch index u) (found : u.sequence[index]? = some before)
    (continues : s.Continues task route e index) (indexed : Indexed s.tasks s.places) :
    s.foundStatus task route e.status = before.status := by
  rcases opens with ⟨rfl, latest, -, goesOn⟩ | ⟨rfl, rfl⟩
  · have again := goesOn before found
    rw [getElem?_sketch] at found
    obtain ⟨entry, there, rfl⟩ := Option.map_eq_some_iff.mp found
    rw [index?_sketch] at latest
    have about : s.latest? task route = some entry := by
      rw [latest?, latest]
      exact there
    have status : s.foundStatus task route e.status = entry.status :=
      foundStatus_of_latest about again
    exact status
  · rw [addEntry, List.getElem?_concat_length] at found
    cases found
    cases known : s.latest? task route with
    | none => simp only [foundStatus, known, freshEntry]
    | some entry =>
      cases again : entry.isCompleted && e.status.isStarting with
      | true => simp only [foundStatus, known, again, if_true, freshEntry]
      | false =>
        obtain ⟨_, there, -⟩ :=
          places_getElem?.mp (indexed.index?_place (continues entry known again))
        have within := (List.getElem?_eq_some_iff.mp there).1
        rw [sketch, List.length_map] at within
        exact (Nat.lt_irrefl _ within).elim

end State

namespace Conductor

variable {c d : Conductor} {op : Operation} {task : String} {route : Nat}

theorem Charted.indexed_sketch (charted : c.Charted) :
    State.Indexed c.state.sketch.tasks c.state.sketch.places := by
  rw [State.tasks_sketch, State.places_sketch]
  exact charted.grounded.indexed

/-- What a call leaves of a task that it is not about. -/
theorem Charted.spares [Engine] (charted : c.Charted) (host : op.isRerun = false)
    (named : Command.isName task = false) (other : ∀ report, op ≠ .update task route report) :
    let s := c.state.sketch
    let t := (op.apply c).state.sketch
    t.index? task route = s.index? task route ∧
    (op.isStop = false → State.SameLatest task route s t) ∧
      (t.batches task route = s.batches task route ∨
        State.Refreshed task route s t ∧ State.Reaches c.state (op.apply c).state task route ∨
        op = .next ∧ ¬∀ b ∈ (s.batches task route).head?, b.items.getD [] ≠ []) := by
  dsimp only
  cases op with
  | request status =>
    rw [Operation.apply, Operation.run, Conducting.after_bind_pure]
    have asked : State.Asked status c.state.sketch
        (Conducting.after (requestStatus status) c).state.sketch :=
      (requestStatus_ends c status).after (fun _ _ asked => asked) fun d tells =>
        ⟨_, d.state.status, tells, rfl⟩
    obtain ⟨index, latest, staged⟩ := asked.bystanding task route
    exact ⟨index, latest, .inl staged⟩
  | next =>
    rw [Operation.apply, Operation.run, Conducting.after_bind_pure]
    obtain ⟨latest, staged⟩ := (nextTasks_offered charted.grounded).bystanding task route
    refine ⟨latest.index, fun _ => latest, ?_⟩
    by_cases known : ∀ b ∈ (c.state.sketch.batches task route).head?, b.items.getD [] ≠ []
    · exact .inl (staged known)
    · exact .inr (.inr ⟨rfl, known⟩)
  | update source way report =>
    obtain ⟨g, known, drawn⟩ := charted.drawn
    have apart : (source, way) ≠ (task, route) := by
      rintro same
      cases same
      exact other report rfl
    have updates := updates_after updateDepth source way charted.grounded report.known known
    rw [Operation.apply, Operation.run, Conducting.after_bind_pure]
    obtain ⟨latest, same | ⟨refreshed, completes⟩⟩ :=
      updates.spares drawn named apart charted.indexed_sketch
    · exact ⟨latest.index, fun _ => latest, .inl same⟩
    · exact ⟨latest.index, fun _ => latest,
        .inr (.inl ⟨refreshed, State.reaches_of_sketch refreshed completes⟩)⟩
  | rerun => cases host
  | render =>
    rw [Operation.apply, Operation.run, Conducting.after_bind_pure]
    obtain ⟨word, same⟩ := renderOutput_restates fun _ => charted.grounded
    rw [same]
    exact ⟨rfl, fun _ => .of_eq rfl rfl, .inl rfl⟩
  | reload =>
    rw [Operation.apply, Operation.run, Conducting.after_bind_pure, charted.reload.2]
    exact ⟨rfl, fun _ => .refl _, .inl rfl⟩

/-! ### Tasks that are tried once only -/

structure Watches (c : Conductor) (task : String) (route : Nat) : Prop where
  charted : c.Charted
  once : c.TriesOnce task
  unretried : c.state.Unretried task route

theorem watches_of_make [Engine] {spec : Spec} {parent input : Value}
    (made : make spec parent input = .ok c) (once : c.TriesOnce task) : c.Watches task route := by
  rcases make_eq_ok made with ⟨noted, -, rfl⟩ | ⟨context, g, found, composed, rfl⟩
  · obtain ⟨_, impossible, -⟩ := once.graph
    cases impossible
  · have grounded := State.grounded_opened (positive_startContext found) g.roots
    refine ⟨⟨grounded, g, rfl, Spec.drawn_compose composed⟩, once, ?_⟩
    intro e impossible
    rw [State.latest?, State.index?, State.tasks_opened] at impossible
    cases impossible

/-- No call gives an account of retries to an entry that has none. -/
theorem unaccounted_apply [Engine] (grounded : c.state.Grounded)
    (host : op.isRerun = false) {index : Nat} (unaccounted : c.state.Unaccounted index) :
    (op.apply c).state.Unaccounted index := by
  rcases Operation.apply_cases grounded op with rfl | ⟨d, moves, moved | ⟨rerun, -⟩⟩
  · rw [Operation.apply, Operation.run, Conducting.after_bind_pure]
    rcases reload_cases grounded.toSound
      with ⟨_, d, done, charts⟩ | ⟨_, _, _, d, -, -, done, -, -, read⟩
    · rw [Conducting.after_eq done, charts.state_eq]
      exact unaccounted
    · rw [Conducting.after_eq done, read]
      exact State.unaccounted_reread unaccounted
  · rw [moved]
    exact moves.unaccounted unaccounted
  · cases host.symm.trans rerun

theorem Watches.apply [Engine] (watches : c.Watches task route) (host : op.isRerun = false)
    (reloads : op = .reload → (op.apply c).TriesOnce task) : (op.apply c).Watches task route := by
  obtain ⟨charted, once, unretried⟩ := watches
  have onceNow : (op.apply c).TriesOnce task := by
    rcases Operation.apply_cases charted.grounded op with reload | ⟨d, moves, same | ⟨rerun, -⟩⟩
    · exact reloads reload
    · exact same ▸ once.of_moves moves
    · cases host.symm.trans rerun
  refine ⟨(charted.apply host).1, onceNow, ?_⟩
  by_cases own : ∃ report, op = .update task route report
  case pos =>
    obtain ⟨report, rfl⟩ := own
    obtain ⟨g, known, drawn⟩ := charted.drawn
    rw [Operation.apply, Operation.run, Conducting.after_bind_pure]
    exact (update_once once charted.grounded unretried report.known known drawn
      (.of_after (fun _ => True) trivial)).1
  case neg =>
    obtain ⟨same, -⟩ := charted.spares host once.named fun report own' => own ⟨report, own'⟩
    intro e latest
    cases index : c.state.index? task route with
    | none =>
      rw [State.latest?, ← State.index?_sketch, same, State.index?_sketch, index] at latest
      cases latest
    | some i =>
      obtain ⟨before, found, -⟩ :=
        State.places_getElem?.mp (charted.grounded.indexed.index?_place index)
      have unaccounted : c.state.Unaccounted i :=
        ⟨before, found, unretried before (by rw [State.latest?, index]; exact found)⟩
      have still : (op.apply c).state.index? task route = some i := by
        rw [← State.index?_sketch, same, State.index?_sketch, index]
      exact unretried_of_index still (unaccounted_apply charted.grounded host unaccounted) e latest

theorem Watches.latestStatus_apply [Engine] (watches : c.Watches task route)
    (host : op.isRerun = false) (goesOn : op.isStop = false)
    (other : ∀ report, op ≠ .update task route report) :
    (op.apply c).state.latestStatus? task route = c.state.latestStatus? task route :=
  State.SameLatest.status_eq ((watches.charted.spares host watches.once.named other).2.1 goesOn)

theorem Watches.batches_apply [Engine] (watches : c.Watches task route) (host : op.isRerun = false)
    (other : ∀ report, op ≠ .update task route report)
    (unreached : ¬State.Reaches c.state (op.apply c).state task route)
    (known : ∀ b ∈ (c.state.batches task route).head?, b.items.getD [] ≠ []) :
    (op.apply c).state.batches task route = c.state.batches task route := by
  obtain ⟨-, -, same | ⟨-, reaches⟩ | ⟨-, unknown⟩⟩ :=
    watches.charted.spares host watches.once.named other
  · rw [State.batches_sketch, State.batches_sketch] at same
    exact same
  · exact (unreached reaches).elim
  · rw [State.batches_sketch] at unknown
    exact (unknown known).elim

/-- What a report about an item does. The item is noted, and the latest entry of the task comes to
the status to which the report leads it. If that completes the task, what is staged for it goes or
is marked, and the task may go on to itself. -/
theorem Watches.item [Engine] (watches : c.Watches task route) {b : Batch} {rest : List Batch}
    {items : List Status} {i : Nat} {status : Status} (result accumulated : Value)
    (word : status.IsWord) (staged : c.state.batches task route = b :: rest)
    (tracked : b.items = some items) (within : i < items.length)
    (spoken : Signal.about .action status .plain ∈ Signal.actionSignals) :
    let d := (Operation.item task route i status result accumulated word).apply c
    let noted : List Batch := { b with items := some (items.set i status) } :: rest
    let before := c.state.foundStatus task route status
    let signal := Machine.Task.itemSignal status (items.eraseIdx i)
    ((∃ error, Machine.Task.step before signal = .error error) ∧
      d.state.batches task route = noted) ∨ ∃ answer, Machine.Task.step before signal = .ok answer ∧
        (∃ after, d.state.latest? task route = some after ∧ after.status = answer.getD before) ∧
        ∃ left, State.Vacates noted left ∧
          ((answer.getD before).isCompleted = false → left = noted) ∧
          (d.state.batches task route = left ∨
            (∃ b : Batch, b.items = none ∧ d.state.batches task route = b :: left.tail) ∧
            (answer.getD before).isCompleted = true ∧ State.Completes c.state d.state task) := by
  intro d noted before signal
  obtain ⟨charted, once, unretried⟩ := watches
  obtain ⟨g, known, drawn⟩ := charted.drawn
  obtain ⟨x, found, rfl⟩ := State.staged?_of_batches staged
  have foundSketch : c.state.sketch.staged? task route = some x.sketch := by
    rw [State.staged?_sketch, found]
    rfl
  have received :=
    receive_item once charted.grounded unretried (e := .item (.int i) status result accumulated) rfl
    found tracked (State.itemIndex_int within)
  obtain ⟨-, ⟨never, -⟩ | ⟨index, continues, updates⟩⟩ :=
    update_once once charted.grounded unretried word known drawn received
  · exact never.elim
  have latestNow := updates.latest drawn once.named
  obtain ⟨taken, entry, takes, there, ofTask, ofRoute, outcome⟩ :=
    updates.outcome drawn once.named charted.indexed_sketch
  obtain ⟨opened, opens, rfl⟩ := takes.of_item foundSketch tracked within
  have same : before = entry.status := opens.foundStatus_eq there continues charted.grounded.indexed
  have notes :
      (opened.updateStaged task route fun x =>
        { x with items := some (items.set i status) }).batches task route = noted := by
    rw [State.batches_updateStaged (f := fun x => { x with items := some (items.set i status) })
      (h := fun b => { b with items := some (items.set i status) }) (by intro _; exact ⟨rfl, rfl⟩)
      (by intro _; rfl), State.batches_of_staged opens.staged_eq, State.batches_sketch, staged]
    rfl
  generalize (opened.updateStaged task route fun x =>
    { x with items := some (items.set i status) }) = taken at *
  have led : taken.statusAfter task route entry.status (.item (.int i) status result accumulated) =
      Machine.Task.step before signal := by
    obtain ⟨y, foundY, batch⟩ := State.staged?_of_batches notes
    rw [State.statusAfter_item foundY (congrArg Batch.items batch) (by simpa using within) spoken,
      List.eraseIdx_set_eq, same]
  have applied : d = Conducting.after
      (update task route (.item (.int i) status result accumulated)) c :=
    Conducting.after_bind_pure ..
  rw [← applied] at latestNow outcome
  rcases outcome with
    ⟨same, unknown, error, foundNow, baffled⟩ | ⟨answer, ok, ⟨after, foundNow, now⟩, left,
      vacates, stays, went⟩
  · cases there.symm.trans foundNow
    rw [ofTask, ofRoute, led] at baffled
    exact .inl ⟨⟨error, baffled⟩, by rw [← State.batches_sketch, same, notes]⟩
  · rw [led] at ok
    rw [notes] at vacates stays
    rw [← same] at now stays went
    refine .inr ⟨answer, ok, ?_, left, vacates, stays, ?_⟩
    · rw [State.index?_sketch] at latestNow
      rw [State.getElem?_sketch] at foundNow
      obtain ⟨last, foundLast, rfl⟩ := Option.map_eq_some_iff.mp foundNow
      exact ⟨last, by rw [State.latest?, latestNow]; exact foundLast, now⟩
    · rw [State.batches_sketch] at went
      exact went.imp_right fun again => ⟨again.1, again.2.1, again.2.2.of_sketch⟩

/-- A report about an item that leads somewhere brings the latest entry of the task there. What is
staged for the task stays, unless that completes the task. -/
theorem Watches.item_led [Engine] (watches : c.Watches task route) {items : List Status} {i : Nat}
    {status : Status} {answer : Option Status} (result accumulated : Value) (word : status.IsWord)
    (tracks : c.state.Tracks task route items) (within : i < items.length)
    (spoken : Signal.about .action status .plain ∈ Signal.actionSignals)
    (led : Machine.Task.step (c.state.foundStatus task route status)
      (Machine.Task.itemSignal status (items.eraseIdx i)) = .ok answer) :
    let d := (Operation.item task route i status result accumulated word).apply c
    let new := answer.getD (c.state.foundStatus task route status)
    d.state.latestStatus? task route = some new ∧
      (new.isCompleted = false → d.state.Tracks task route (items.set i status)) := by
  obtain ⟨b, rest, staged, tracked⟩ := tracks
  rcases watches.item result accumulated word staged tracked within spoken with
    ⟨⟨_, failed⟩, -⟩ | ⟨_, ok, ⟨after, latest, now⟩, left, -, stays, went⟩
  · cases led.symm.trans failed
  · cases led.symm.trans ok
    refine ⟨by rw [State.latestStatus?, latest, Option.map_some, now], fun open_ => ?_⟩
    rcases went with same | ⟨-, completed, -⟩
    · exact ⟨_, rest, by rw [same, stays open_], rfl⟩
    · cases open_.symm.trans completed

/-- A report about an item leaves the task out of staging, or notes the item, unless the task goes
on to itself. -/
theorem Watches.item_staged [Engine] (watches : c.Watches task route) {b : Batch}
    {items : List Status} {i : Nat} {status : Status} (result accumulated : Value)
    (word : status.IsWord) (staged : c.state.batches task route = [b])
    (tracked : b.items = some items) (within : i < items.length)
    (spoken : Signal.about .action status .plain ∈ Signal.actionSignals) :
    let d := (Operation.item task route i status result accumulated word).apply c
    ¬State.Reaches c.state d.state task route → d.state.batches task route = [] ∨
      ∃ marked, d.state.batches task route =
        [{ b with items := some (items.set i status), completed := marked }] := by
  intro d unreached
  rcases watches.item result accumulated word staged tracked within spoken with
    ⟨-, same⟩ | ⟨_, -, -, left, vacates, -, same | ⟨⟨fresh, unknown, refreshed⟩, -, completes⟩⟩
  · exact .inr ⟨b.completed, same⟩
  · rw [same]
    cases vacates with
    | stay => exact .inr ⟨b.completed, rfl⟩
    | keep => exact .inr ⟨true, rfl⟩
    | leave => exact .inl rfl
  · exact (unreached (State.reaches_of_batches completes refreshed unknown)).elim

theorem Watches.report_unstaged [Engine] (watches : c.Watches task route) (report : Report)
    (unstaged : c.state.batches task route = []) :
    let d := (Operation.update task route report).apply c
    ¬State.Reaches c.state d.state task route → d.state.batches task route = [] := by
  intro d unreached
  obtain ⟨charted, once, unretried⟩ := watches
  obtain ⟨g, known, drawn⟩ := charted.drawn
  have applied : d = Conducting.after (update task route report.event) c :=
    Conducting.after_bind_pure ..
  rw [← State.batches_sketch] at unstaged ⊢
  obtain ⟨-, ⟨-, takes⟩ | ⟨index, -, updates⟩⟩ :=
    update_once once charted.grounded unretried report.known known drawn
    (.of_after (fun _ => True) trivial)
  · rw [applied]
    exact takes.unstaged unstaged
  obtain ⟨taken, entry, takes, -, -, -, outcome⟩ :=
    updates.outcome drawn once.named charted.indexed_sketch
  rw [← applied] at outcome
  have takenUnstaged := takes.unstaged unstaged
  rcases outcome with ⟨same, -⟩ | ⟨answer, -, -, left, vacates, -,
    same | ⟨⟨b, unknown, refreshed⟩, -, completes⟩⟩
  · rw [same, takenUnstaged]
  · rw [takenUnstaged] at vacates
    rw [same]
    cases vacates <;> rfl
  · rw [State.batches_sketch] at refreshed
    exact (unreached (State.reaches_of_batches completes.of_sketch refreshed unknown)).elim

theorem Watches.afterAll [Engine] {ops : List Operation} (watches : c.Watches task route)
    (hosts : ∀ op ∈ ops, op.isRerun = false)
    (once : ∀ done, done <+: ops → (c.afterAll done).TriesOnce task) :
    (c.afterAll ops).Watches task route := by
  induction ops generalizing c with
  | nil => exact watches
  | cons op rest ih =>
    have first : (op.apply c).Watches task route :=
      watches.apply (hosts op List.mem_cons_self) fun _ => once [op] (List.prefix_append [op] rest)
    have others : ∀ other ∈ rest, other.isRerun = false :=
      fun other among => hosts other (List.mem_cons_of_mem op among)
    refine ih first others fun done begins => ?_
    exact once (op :: done) (List.cons_prefix_cons.mpr ⟨rfl, begins⟩)

end Conductor

/-! ### A small workflow with items -/

namespace Sample

def repetition (limit : Value) : Value :=
  .fields [("items", .str "<% [1, 2, 3] %>"), ("concurrency", limit)]

/-- One task has three items, of which so many may be active at once. -/
def batches (limit : Value) : Value := .fields [("tasks", .fields [
  ("batch", .fields [("with", repetition limit), ("action", .str "core.noop")])])]

def item (i : Nat) (status : Status) (word : status.IsWord) : Operation :=
  .item "batch" 0 i status .null .null word

end Sample

end Orchestration
