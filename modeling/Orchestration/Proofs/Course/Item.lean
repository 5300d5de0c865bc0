import Orchestration.Proofs.Batches
import Orchestration.Proofs.Course.Report

/-!
Reports about a task that is tried once only.

No entry of such a task ever has an account of retries, and so a report never stages the task again,
unless the task goes on to itself. A report about one of its items is always received while the
items are kept track of.
-/

namespace Orchestration

open Conducting (Ends Runs result)

namespace Machine.Task

def itemSignal (status : Status) (others : List Status) : Signal :=
  .about .action status (if itemStatuses.contains status then itemScope others else .plain)

end Machine.Task

namespace State

variable {s t : State} {task : String} {route index : Nat} {e : Event} {g : Graph} {new : Status}

def Unretried (s : State) (task : String) (route : Nat) : Prop :=
  ∀ e, s.latest? task route = some e → e.retry = none

/-- An event is about the latest entry of its task, unless that is completed and the task is started
again. -/
def Continues (task : String) (route : Nat) (e : Event) (s : State) (index : Nat) : Prop :=
  ∀ entry, s.latest? task route = some entry → (entry.isCompleted && e.status.isStarting) = false →
    s.index? task route = some index

def UpdatesOnce (g : Graph) (task : String) (route : Nat) (e : Event) (index : Nat) (s t : State) :
    Prop :=
  ∃ taken, Takes task route e s (some index) taken ∧
    (t = taken ∧ Baffles e index taken ∨ ∃ old new turned, Turns e index taken old new turned ∧
      (Reacts g task route index old new turned .stop t ∨ new ≠ .retrying ∧
        ∃ commands reacted depth, Reacts g task route index old new turned (.go commands) reacted ∧
          Ensues g task route (fun next => Updates g depth next.1.name next.2
            (.command next.1)) commands reacted t))

theorem UpdatesOnce.latest (updates : UpdatesOnce g task route e index s t) (drawn : g.Drawn)
    (named : Command.isName task = false) : t.index? task route = some index := by
  obtain ⟨taken, takes, updates⟩ := updates
  have about := takes.latest.1
  rcases updates with ⟨rfl, -⟩ | ⟨old, new, turned, turns, updates⟩
  · exact about
  have reacted {reaction : Reaction} {u : State}
      (reacts : Reacts g task route index old new turned reaction u) :
      u.index? task route = some index := by
    rw [index?, reacts.renoted.tasks, turns.tasks_eq]
    exact about
  rcases updates with reacts | ⟨-, commands, u, depth, reacts, ensues⟩
  · exact reacted reacts
  · exact ((ensues.command drawn).1.latest task route named).trans (reacted reacts)

/-- What becomes of what is staged for a task when the task reacts to an event. It is taken out only
if no item is active. -/
inductive Vacates (staged : List Batch) : List Batch → Prop where
  | stay : Vacates staged staged
  | keep : Vacates staged (staged.modifyHead fun b => { b with completed := true })
  | leave : (∀ b ∈ staged.head?, (b.items.getD []).any (·.isActive) = false) →
      Vacates staged staged.tail

theorem Withdraws.vacates {reaction : Reaction} (withdraws : Withdraws task route new s reaction t)
    (once : reaction = .stop ∨ new ≠ .retrying) :
    Vacates (s.batches task route) (t.batches task route) ∧ (new.isCompleted = false → t = s) := by
  cases withdraws with
  | stay => exact ⟨.stay, fun _ => rfl⟩
  | leave completed leaves =>
    refine ⟨?_, fun open_ => Bool.noConfusion (open_.symm.trans completed)⟩
    cases leaves with
    | leave =>
      rcases batches_unstage s task route with same | ⟨left, idle⟩
      · rw [same]
        exact .stay
      · rw [left]
        exact .leave idle
    | keep =>
      rw [batches_updateStaged (f := fun x => { x with completed := true })
        (h := fun b => { b with completed := true }) (by intro _; exact ⟨rfl, rfl⟩)
        (by intro _; rfl)]
      exact .keep
  | again retrying =>
    rcases once with stopped | fresh
    · cases stopped
    · exact (fresh retrying).elim

/-- What an event about a task does that is tried once only: its entry comes to the status to which
the event leads, and if that completes the task, what is staged for it goes or is marked, and the
task may go on to itself. -/
theorem UpdatesOnce.outcome (updates : UpdatesOnce g task route e index s t) (drawn : g.Drawn)
    (named : Command.isName task = false) (indexed : Indexed s.tasks s.places) :
    ∃ taken before, Takes task route e s (some index) taken ∧ taken.sequence[index]? = some before ∧
      before.task = task ∧ before.route = route ∧
      (t = taken ∧ Baffles e index taken ∨ ∃ answer,
        taken.statusAfter task route before.status e = .ok answer ∧
        (∃ after, t.sequence[index]? = some after ∧ after.status = answer.getD before.status) ∧
        ∃ left, Vacates (taken.batches task route) left ∧
          ((answer.getD before.status).isCompleted = false → left = taken.batches task route) ∧
          (t.batches task route = left ∨
            (∃ b : Batch, b.items = none ∧ t.batches task route = b :: left.tail) ∧
            (answer.getD before.status).isCompleted = true ∧ Completes s t task)) := by
  obtain ⟨taken, takes, updates⟩ := updates
  obtain ⟨about, kept⟩ := takes.latest
  obtain ⟨before, atBefore, rfl, rfl⟩ :=
    places_getElem?.mp ((takes.indexed indexed).index?_place about)
  refine ⟨taken, before, takes, atBefore, rfl, rfl, ?_⟩
  rcases updates with baffled | ⟨old, new, turned, turns, updates⟩
  · exact .inl baffled
  obtain ⟨-, ⟨after, atAfter, isNew⟩, -⟩ := turns.entryAt
  have staged : turned.batches before.task before.route = taken.batches before.task before.route :=
    batches_of_staged turns.staged_eq
  obtain ⟨answer, led, rfl⟩ :
      ∃ answer, taken.statusAfter before.task before.route before.status e = .ok answer ∧
      new = answer.getD before.status := by
    cases turns with
    | turn found led =>
      cases atBefore.symm.trans found
      exact ⟨_, led, rfl⟩
  refine .inr ⟨answer, led, ?_⟩
  have reacted {reaction : Reaction} {u : State}
      (reacts : Reacts g before.task before.route index old (answer.getD before.status)
        turned reaction u) (once : reaction = .stop ∨ answer.getD before.status ≠ .retrying) :
      (∃ after, u.sequence[index]? = some after ∧ after.status = answer.getD before.status) ∧
        ∃ left, Vacates (taken.batches before.task before.route) left ∧
          ((answer.getD before.status).isCompleted = false →
            left = taken.batches before.task before.route) ∧
          (u.batches before.task before.route = left ∨
            (∃ b : Batch, b.items = none ∧ u.batches before.task before.route = b :: left.tail) ∧
            (answer.getD before.status).isCompleted = true ∧ Completes s u before.task) := by
    obtain ⟨last, atLast, same⟩ := reacts.renoted.entryAt atAfter
    refine ⟨⟨last, atLast, same.trans isNew⟩, ?_⟩
    obtain ⟨left, withdraws, went⟩ := reacts.batches drawn atAfter before.task before.route
    obtain ⟨vacates, stays⟩ := withdraws.vacates once
    rw [staged] at vacates
    refine ⟨left.batches before.task before.route, vacates,
      fun open_ => by rw [stays open_, staged], ?_⟩
    rcases went with same | ⟨refreshed, -, completed, changed, entry, there, went⟩
    · exact .inl same
    · obtain ⟨ended, fresh⟩ := reacts.completed_now turns completed changed
      refine .inr ⟨refreshed, completed, index, entry, there, ended entry there,
        fun known found => ?_, went⟩
      exact fresh known (kept index known found)
  rcases updates with reacts | ⟨fresh, commands, u, depth, reacts, ensues⟩
  · exact reacted reacts (.inl rfl)
  obtain ⟨⟨last, atLast, isNew⟩, left, vacates, stays, went⟩ := reacted reacts (.inr fresh)
  have appends := (ensues.command drawn).1
  have same := ensues.batches drawn named before.route
  refine ⟨⟨last, appends.entries index last atLast, isNew⟩, left, vacates, stays, ?_⟩
  rw [same]
  refine went.imp_right fun ⟨refreshed, completed, place, entry, there, rest⟩ => ?_
  exact ⟨refreshed, completed, place, entry, appends.entries place entry there, rest⟩

/-! ### Items -/

variable {items : List Status} {i : Nat} {x : Staged}

theorem itemIndex_int (within : i < items.length) : itemIndex items (.int i) = .ok i := by
  have natural : ¬(i : Int) < 0 := by omega
  simp [itemIndex, Value.asInt?, natural, within]

/-- An item leads its task as the machine says that is told what the other items have come to. -/
theorem statusAfter_item {status : Status} (staged : s.staged? task route = some x)
    (tracked : x.items = some items) (within : i < items.length)
    (spoken : Signal.about .action status .plain ∈ Signal.actionSignals) (old : Status)
    (result accumulated : Value) :
    s.statusAfter task route old (.item (.int i) status result accumulated) =
      Machine.Task.step old (Machine.Task.itemSignal status (items.eraseIdx i)) := by
  have known : requireKnown (.item (.int i) status result accumulated)
      (Signal.actionSignals ++ Signal.commandSignals) = .ok () :=
    if_pos (List.contains_iff_mem.mpr (List.mem_append_left _ spoken))
  have told : s.signalFor task route (.item (.int i) status result accumulated) =
      .ok (Machine.Task.itemSignal status (items.eraseIdx i)) := by
    refine bind_eq_ok.mpr ⟨(), known, ?_⟩
    change (if Machine.Task.itemStatuses.contains status = true then _ else _) = _
    unfold Machine.Task.itemSignal
    split
    case isTrue =>
      have listed : itemsOf (s.staged? task route) = .ok items := by
        simp only [staged, itemsOf, tracked]
      exact bind_eq_ok.mpr ⟨items, listed, bind_eq_ok.mpr ⟨i, itemIndex_int within, rfl⟩⟩
    case isFalse => rfl
  unfold statusAfter
  rw [told]
  rfl

theorem Takes.unstaged {answer : Option Nat} (takes : Takes task route e s answer t)
    (nothing : s.batches task route = []) : t.batches task route = [] := by
  have shelved {opened : State} (same : opened.batches task route = []) :
      (opened.shelved task route e).batches task route = [] := by
    unfold State.shelved
    rw [staged?_of_batches_nil same]
    exact same
  cases takes with
  | refuse => exact nothing
  | cut opens | plain opens => exact shelved ((batches_of_staged opens.staged_eq).trans nothing)
  | item _ _ found => cases found.symm.trans (staged?_of_batches_nil nothing)

/-- What is received about an item is noted where the task is staged. -/
theorem Takes.of_item {status : Status} {result accumulated : Value}
    (takes : Takes task route (.item (.int i) status result accumulated) s (some index) t)
    (staged : s.staged? task route = some x) (tracked : x.items = some items)
    (within : i < items.length) :
    ∃ opened, Opened task route (.item (.int i) status result accumulated) s index opened ∧
      t = opened.updateStaged task route fun x =>
      { x with items := some (items.set i status) } := by
  cases takes with
  | plain _ other =>
    rcases other with other | unstaged
    · exact (other _ _ rfl).elim
    · cases staged.symm.trans unstaged
  | item opens kind found known place =>
    cases kind
    cases staged.symm.trans found
    cases tracked.symm.trans known
    cases (itemIndex_int within).symm.trans place
    exact ⟨_, opens, rfl⟩

end State

namespace Conductor

variable {c d : Conductor} {task : String} {route index : Nat} {g : Graph}

structure TriesOnce (c : Conductor) (task : String) : Prop where
  named : Command.isName task = false
  graph : ∃ g, c.graph? = some g ∧ g.hasTask task = true ∧ g.hasRetry task = .ok false
  described : ∃ spec, c.spec.taskSpec task = .ok spec

theorem TriesOnce.of_moves (once : c.TriesOnce task) (moves : Moves c d) : d.TriesOnce task where
  named := once.named
  graph := by
    obtain ⟨g, known, rest⟩ := once.graph
    exact ⟨g, moves.graph_eq known, rest⟩
  described := moves.spec_eq ▸ once.described

def triesOnce (c : Conductor) (task : String) : Bool :=
  !Command.isName task &&
    (match c.graph? with
      | some g =>
        g.hasTask task && (match g.hasRetry task with | .ok retries => !retries | .error _ => false)
      | none => false) &&
    match c.spec.taskSpec task with | .ok _ => true | .error _ => false

theorem triesOnce_iff : c.triesOnce task = true ↔ c.TriesOnce task := by
  constructor
  · intro holds
    simp only [triesOnce, Bool.and_eq_true, Bool.not_eq_true'] at holds
    obtain ⟨⟨named, graph⟩, described⟩ := holds
    refine ⟨named, ?_, ?_⟩
    · split at graph
      case h_1 g known =>
        rw [Bool.and_eq_true] at graph
        refine ⟨g, known, graph.1, ?_⟩
        split at graph
        case h_1 retries found =>
          rw [found]
          simpa using graph.2
        case h_2 => cases graph.2
      case h_2 => cases graph
    · split at described
      case h_1 spec found => exact ⟨spec, found⟩
      case h_2 => cases described
  · rintro ⟨named, ⟨g, known, there, never⟩, spec, described⟩
    simp [triesOnce, named, known, there, never, described]

/-! ### Entries -/

theorem result_requireTask (known : c.graph? = some g) (there : g.hasTask task = true) :
    result (requireTask task) c = (.ok (), c) := by
  unfold requireTask
  rw [Conducting.result_bind_of_ok (result_graph known), there]
  rfl

theorem result_taskSpec {spec : Spec} (described : c.spec.taskSpec task = .ok spec) :
    result (taskSpec task) c = (.ok spec, c) := by
  unfold taskSpec
  rw [Conducting.result_bind_of_ok (Conducting.result_get c), described]
  rfl

theorem result_retryFor [Engine] (known : c.graph? = some g) (never : g.hasRetry task = .ok false)
    (indices : List Nat) : result (retryFor task indices) c = (.ok none, c) := by
  unfold retryFor
  rw [Conducting.result_bind_of_ok (result_graph known), never]
  rfl

theorem heldOr_keeps {α : Type} (c : Conductor) (held : Shared (List α)) (own : List α) :
    Ends (heldOr held own) c (fun _ d => d.graph? = c.graph? ∧ d.state.sequence = c.state.sequence ∧
      d.state.tasks = c.state.tasks) (fun _ => False) := by
  unfold heldOr
  split
  · exact .of_result (result_share _ _) ⟨rfl, rfl, rfl⟩
  · exact .pure ⟨rfl, rfl, rfl⟩

def Enters (c : Conductor) (task : String) (route : Nat) (d : Conductor) : Prop :=
  d.state.index? task route = some c.state.sequence.length ∧
    ∃ e, d.state.sequence[c.state.sequence.length]? = some e ∧ e.retry = none ∧
      e.isCompleted = false

/-- A new entry of a task that is never tried again can always be added, and has no account of
retries. -/
theorem addEntry_once [Engine] (known : c.graph? = some g) (there : g.hasTask task = true)
    (never : g.hasRetry task = .ok false) (contexts : Shared (List Nat))
    (prev : Shared (List (String × Nat))) :
    Ends (addEntry task route contexts prev) c (fun _ d => c.Enters task route d)
      (fun _ => False) := by
  unfold addEntry
  refine .bind_of_result (result_requireTask known there) (.bind (heldOr_keeps c contexts [0]) ?_)
  rintro reads c₁ ⟨graph₁, sequence₁, -⟩
  refine .bind (heldOr_keeps c₁ prev []) ?_
  rintro links c₂ ⟨graph₂, sequence₂, -⟩
  refine .bind_of_result (result_retryFor (graph₂.trans (graph₁.trans known)) never _) ?_
  refine .bind_of_result (Conducting.result_pure _ _)
    (.bind_modifyState _ (.bind_getState (.pure ?_)))
  have length : c₂.state.sequence.length = c.state.sequence.length := by rw [sequence₂, sequence₁]
  refine ⟨?_, ⟨task, route, reads, [], links, [], none, .missing, false⟩, ?_, rfl, rfl⟩
  · rw [← length]
    exact lookup_putNamed_self ..
  · rw [← length]
    exact List.getElem?_concat_length ..

theorem addStagedEntry_once [Engine] (known : c.graph? = some g) (there : g.hasTask task = true)
    (never : g.hasRetry task = .ok false) {staged : Option Staged}
    (placed : ∀ x ∈ staged, x.route = route) :
    Ends (addStagedEntry task staged) c (fun _ d => c.Enters task route d)
      (fun d => d = c ∧ staged = none) := by
  unfold addStagedEntry
  split
  case h_1 x =>
    obtain rfl := placed x rfl
    exact (addEntry_once known there never x.contexts x.prev).orIll fun _ no => no.elim
  case h_2 => exact .throw _ ⟨rfl, rfl⟩

theorem entryFor_new [Engine] {e : Event} {staged : Option Staged} {ill : Conductor → Prop}
    (opened : Ends (knownEntry task route staged) c (fun _ d => c.Enters task route d) ill) :
    Ends (entryFor task route e staged) c
      (fun index d => d.state.index? task route = some index ∧ d.state.Unaccounted index) ill := by
  unfold entryFor
  refine .bind opened ?_
  rintro _ d ⟨latestNow, entry, found, unaccounted, fresh⟩
  refine .bind_getState (.bind_getState ?_)
  simp only [latestNow, Option.getD_some, found, Option.map_some, fresh, Bool.false_and]
  exact .pure ⟨latestNow, entry, found, unaccounted⟩

/-- A report about a task that is tried once only is about an entry without an account of retries.
If the task is staged, or has an entry, there is such an entry. -/
theorem entryFor_once [Engine] (once : c.TriesOnce task) (grounded : c.state.Grounded)
    (unretried : c.state.Unretried task route) (e : Event) {staged : Option Staged}
    (placed : ∀ x ∈ staged, x.route = route) : Ends (entryFor task route e staged) c
      (fun index d => d.state.index? task route = some index ∧ d.state.Unaccounted index ∧
        c.state.Continues task route e index)
      (fun d => d = c ∧ staged = none) := by
  obtain ⟨g, known, there, never⟩ := once.graph
  have adds := addStagedEntry_once known there never placed
  cases latest : c.state.index? task route with
  | none =>
    have opened : Ends (knownEntry task route staged) c (fun _ d => c.Enters task route d)
        (fun d => d = c ∧ staged = none) := by
      unfold knownEntry
      refine .bind_getState ?_
      rw [latest]
      exact adds
    refine (entryFor_new opened).weaken ?_ fun _ refused => refused
    rintro index d ⟨latestNow, unaccounted⟩
    refine ⟨latestNow, unaccounted, fun known impossible => ?_⟩
    rw [State.latest?, latest] at impossible
    cases impossible
  | some i =>
    obtain ⟨entry, found, -⟩ := State.places_getElem?.mp (grounded.indexed.index?_place latest)
    have latestEntry : c.state.latest? task route = some entry := by
      rw [State.latest?, latest]
      exact found
    have unaccounted : entry.retry = none := unretried entry latestEntry
    have opened : result (knownEntry task route staged) c = (.ok i, c) := by
      unfold knownEntry
      rw [Conducting.result_bind_of_ok (Conducting.result_getState c), latest]
      simp only [once.named]
      rfl
    unfold entryFor
    refine .bind_of_result opened (.bind_getState (.bind_getState ?_))
    simp only [latest, Option.getD_some, found, Option.map_some]
    split
    case isTrue again =>
      refine .bind adds ?_
      rintro _ d ⟨latestNow, new, foundNew, unaccountedNew, -⟩
      refine .bind_getState (.pure ?_)
      rw [latestNow]
      refine ⟨rfl, ⟨new, foundNew, unaccountedNew⟩, fun known same goesOn => ?_⟩
      cases latestEntry.symm.trans same
      cases goesOn.symm.trans again
    case isFalse => exact .pure ⟨latest, ⟨entry, found, unaccounted⟩, fun _ _ _ => latest⟩

theorem noteStaged_keeps (c : Conductor) (staged : Option Staged) (e : Event) :
    let Kept : Conductor → Prop :=
      fun d => d.state.sequence = c.state.sequence ∧ d.state.tasks = c.state.tasks
    Ends (noteStaged staged e) c (fun _ d => Kept d) Kept := by
  intro Kept
  have notes (x : Staged) {d : Conductor} (kept : Kept d) :
      Ends (noteItem x e) d (fun _ d => Kept d) Kept := by
    unfold noteItem
    split
    · exact .bind_ofExcept (fun _ _ => kept) fun _ _ => .bind_ofExcept (fun _ _ => kept) fun _ _ =>
        .of_modifyState _ kept
    · exact .pure kept
  unfold noteStaged
  cases staged with
  | none => exact .pure ⟨rfl, rfl⟩
  | some x =>
    dsimp only
    split
    · exact .bind_modifyState _ (notes x ⟨State.sequence_unstage .., State.tasks_unstage ..⟩)
    · exact notes x ⟨rfl, rfl⟩

theorem unretried_of_index (latest : c.state.index? task route = some index)
    (unaccounted : c.state.Unaccounted index) : c.state.Unretried task route := by
  intro entry found
  obtain ⟨_, there, none⟩ := unaccounted
  rw [State.latest?, latest] at found
  cases there.symm.trans found
  exact none

/-- What is received is about the entry that is found for it, which nothing else changes. -/
theorem receive_unaccounted [Engine] (e : Event) {holds : Nat → Prop} {ill : Conductor → Prop}
    (refused : ill c) (cut : ∀ d, d.state.Unretried task route → ill d)
    (enters : Ends (entryFor task route e (c.state.staged? task route)) c
      (fun index d => d.state.index? task route = some index ∧ d.state.Unaccounted index ∧
        holds index) ill) : Ends (receive task route e) c
      (fun index d => d.state.index? task route = some index ∧ d.state.Unaccounted index ∧
        holds index) ill := by
  unfold receive
  refine .bind_getState (.bind_getState ?_)
  dsimp only
  split
  · exact .throw _ refused
  refine .bind enters ?_
  rintro index d ⟨latest, ⟨entry, found, none⟩, rest⟩
  have kept {d' : Conductor} (same : d'.state.sequence = d.state.sequence ∧
    d'.state.tasks = d.state.tasks) :
      d'.state.index? task route = some index ∧ d'.state.Unaccounted index ∧ holds index :=
    ⟨by rw [State.index?, same.2]; exact latest, ⟨entry, by rw [same.1, found], none⟩, rest⟩
  refine .bind ((noteStaged_keeps d _ e).weaken (fun _ _ same => kept same) fun d' same =>
    cut d' (unretried_of_index (kept same).1 (kept same).2.1)) ?_
  rintro _ d' holds
  split
  · have logged := result_logEntry d' (.str failedMessage) ⟨.str task, .null, .null⟩ e.result .null
    exact .bind_of_result logged (.pure holds)
  · exact .pure holds

theorem receive_once [Engine] (once : c.TriesOnce task) (grounded : c.state.Grounded)
    (unretried : c.state.Unretried task route) (e : Event) :
    Ends (receive task route e) c
      (fun index d => d.state.index? task route = some index ∧ d.state.Unaccounted index ∧
        c.state.Continues task route e index)
      (fun d => d.state.Unretried task route) := by
  have placed : ∀ x ∈ c.state.staged? task route, x.route = route :=
    fun x found => (State.staged?_eq_some found).2.2
  refine receive_unaccounted e unretried (fun _ kept => kept) ?_
  refine (entryFor_once once grounded unretried e placed).orIll ?_
  rintro _ ⟨rfl, -⟩
  exact unretried

/-- A report about an item is received as long as the items of the task are kept track of. -/
theorem receive_item [Engine] (once : c.TriesOnce task) (grounded : c.state.Grounded)
    (unretried : c.state.Unretried task route) {e : Event} {item accumulated : Value} {x : Staged}
    {items : List Status} {place : Nat} (kind : e.kind = .item item accumulated)
    (found : c.state.staged? task route = some x) (tracked : x.items = some items)
    (within : State.itemIndex items item = .ok place) :
    Ends (receive task route e) c (fun _ _ => True) (fun _ => False) := by
  have placed : ∀ y ∈ some x, y.route = route := by
    intro y same
    cases same
    exact (State.staged?_eq_some found).2.2
  have listed : State.itemsOf (some x) = .ok items := by
    simp only [State.itemsOf, tracked]
  unfold receive
  refine .bind_getState (.bind_getState ?_)
  rw [found]
  refine .bind ((entryFor_once once grounded unretried e placed).orIll fun _ failed => ?_) ?_
  · cases failed.2
  intro index d _
  have noted : Ends (noteStaged (some x) e) d (fun _ _ => True) (fun _ => False) := by
    unfold noteStaged noteItem
    simp only [tracked, Option.isNone_some, Bool.and_false, Bool.false_eq_true, if_false, kind]
    rw [listed]
    refine .bind_of_result (Conducting.result_ofExcept _ _) ?_
    rw [within]
    exact .bind_of_result (Conducting.result_ofExcept _ _) (.of_modifyState _ trivial)
  refine .bind noted fun _ d' _ => ?_
  split
  · have logged := result_logEntry d' (.str failedMessage) ⟨.str task, .null, .null⟩ e.result .null
    exact .bind_of_result logged (.pure trivial)
  · exact .pure trivial

/-- A report about a task that is tried once only leaves it without an account of retries. Either
nothing more has come of the report than of an event that cannot be received, or the task has
reacted once. -/
theorem update_once [Engine] {e : Event} {Refused : Conductor → Prop} (once : c.TriesOnce task)
    (grounded : c.state.Grounded) (unretried : c.state.Unretried task route)
    (word : e.status.IsWord) (known : c.graph? = some g) (drawn : g.Drawn)
    (receives : Ends (receive task route e) c (fun _ _ => True) Refused) :
    let d := Conducting.after (update task route e) c
    d.state.Unretried task route ∧
      (Refused d ∧ State.Takes task route e c.state.sketch none d.state.sketch ∨
        ∃ index, c.state.Continues task route e index ∧
          State.UpdatesOnce g task route e index c.state.sketch d.state.sketch) := by
  let Left : Conductor → Prop := fun d => d.state.Unretried task route ∧
    (Refused d ∧ State.Takes task route e c.state.sketch none d.state.sketch ∨
      ∃ index, c.state.Continues task route e index ∧
        State.UpdatesOnce g task route e index c.state.sketch d.state.sketch)
  suffices Ends (update task route e) c (fun _ d => Left d) Left from
    this.after (fun _ _ left => left) fun _ left => left
  obtain ⟨_, same, there, -⟩ := once.graph
  cases known.symm.trans same
  obtain ⟨spec, described⟩ := once.described
  unfold update updateDepth
  rw [updateWithin_succ]
  refine .bind_of_result (result_requireTask known there)
    (.bind_of_result (result_taskSpec described) ?_)
  have received :=
    (((receive_ends e grounded).and (receive_once once grounded unretried e)).and
      receives).with_moves (receive_runs grounded word)
  refine .bind (received.orIll ?_) ?_
  · rintro c₁ ⟨⟨takes, unretriedNow⟩, refused⟩
    exact ⟨unretriedNow, .inl ⟨refused, takes⟩⟩
  rintro index c₁ ⟨moves₁, -, ⟨takes, latest, unaccounted, continues⟩, -⟩
  have left {e₁ : Conductor} (moves : Moves c₁ e₁)
      (updates : State.UpdatesOnce g task route e index c.state.sketch e₁.state.sketch) :
      Left e₁ := by
    refine ⟨unretried_of_index ?_ (moves.unaccounted unaccounted), .inr ⟨index, continues, updates⟩⟩
    rw [← State.index?_sketch]
    exact updates.latest drawn once.named
  have grounded₁ := moves₁.grounded grounded
  have advances := (advance_ends spec e grounded₁ (grounded₁.indexed.index?_place latest)
    (moves₁.graph_eq known)).and (Ends.of_runs (advance_runs grounded₁ latest spec e))
  refine .bind (advances.orIll ?_) ?_
  · rintro c₂ ⟨⟨same, baffles⟩ | ⟨old, new, turned, turns, reacts⟩, moves₂⟩
    · exact left moves₂ ⟨_, takes, .inl ⟨same, baffles⟩⟩
    · exact left moves₂ ⟨_, takes, .inr ⟨old, new, turned, turns, .inl reacts⟩⟩
  rintro answer c₂ ⟨⟨old, new, turned, turns, reacts, unlessAccounted⟩, moves₂, -⟩
  obtain ⟨goes, fresh⟩ := unlessAccounted unaccounted
  cases answer with
  | none => exact (goes rfl).elim
  | some commands =>
    have grounded₂ := moves₂.grounded grounded₁
    have known₂ := moves₂.graph_eq (moves₁.graph_eq known)
    have carries := carryOn_ensues task route index 3 commands grounded₂ known₂ fun next d later =>
      updates_after 3 next.1.name next.2 (later.grounded grounded₂) (isWord_command next.1)
        (later.graph_eq known₂)
    have ensues := carries.and (Ends.of_runs (carryOn_runs 3 index (some commands) grounded₂))
    have carried {c₃ : Conductor} (moves₃ : Moves c₂ c₃) (ensues : State.Ensues g task route
        (fun next => State.Updates g 3 next.1.name next.2 (.command next.1)) commands
        c₂.state.sketch c₃.state.sketch) : Left c₃ :=
      left (moves₂.trans moves₃)
        ⟨_, takes, .inr ⟨old, new, turned, turns, .inr ⟨fresh, commands, _, 3, reacts, ensues⟩⟩⟩
    exact ensues.weaken (fun _ _ holds => carried holds.2.1 holds.1) fun _ holds =>
      carried holds.2 holds.1

end Conductor

end Orchestration
