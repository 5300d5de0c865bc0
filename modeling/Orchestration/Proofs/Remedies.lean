import Orchestration.Proofs.Effects
import Orchestration.Proofs.Redrawing

/-!
Where tasks come from that are to be started even when the workflow has failed.

A task is marked so by one report only: that of a task which is completed by it, and which goes on
to that task and to `fail`.
-/

namespace Orchestration

open Relation (ReflTransGen)
open Conductor (Followers)

def Entry.WentTo (e : Entry) (target : String) : Prop :=
  ∃ n : Nat, e.next.lookup (State.transitionKey target (.int n)) = some true

theorem Command.isName_name (command : Command) :
    isName command.name = true := by cases command <;> decide

theorem Graph.Drawn.nextTransitions_apart {g : Graph} (drawn : g.Drawn) (task : String) :
    (g.nextTransitions task).Pairwise fun e f =>
      State.transitionKey e.target e.key ≠ State.transitionKey f.target f.key := by
  refine (Graph.distinct_nextTransitions drawn.distinct task).imp_of_mem
    fun {e f} left right apart same => apart ?_
  obtain ⟨inEdges, source⟩ := Graph.mem_nextTransitions.mp left
  obtain ⟨otherInEdges, otherSource⟩ := Graph.mem_nextTransitions.mp right
  obtain ⟨n, key⟩ := drawn.numbered e inEdges
  obtain ⟨m, otherKey⟩ := drawn.numbered f otherInEdges
  rw [key, otherKey] at same
  obtain ⟨target, number⟩ := State.transitionKey_inj same
  exact ⟨source.trans otherSource.symm, target, by rw [key, otherKey, number]⟩

theorem Graph.Drawn.nextTransitions_command {g : Graph} (drawn : g.Drawn) {name : String}
    (command : Command.isName name = true) : g.nextTransitions name = [] := by
  refine List.eq_nil_iff_forall_not_mem.mpr fun edge leaves => ?_
  obtain ⟨inEdges, source⟩ := Graph.mem_nextTransitions.mp leaves
  have none := (drawn.edges edge inEdges).leaves
  rw [source, command] at none
  cases none

namespace State

variable {s t u : State} {task target : String} {route way index : Nat} {e : Event} {g : Graph}
  {entry : Entry} {old new : Status} {reaction : Reaction} {answer : Option Nat}

def RunsOnFail (s : State) (task : String) (route : Nat) : Prop :=
  ∃ x ∈ s.staged, x.isAt task route = true ∧ x.runOnFail = true

/-- From one state to another a task has been completed, and has gone on to another one and to
`fail`. -/
def Remedies (s t : State) (task : String) (route : Nat) (target : String) : Prop :=
  ∃ index entry, t.index? task route = some index ∧ t.sequence[index]? = some entry ∧
    entry.isCompleted = true ∧ (∀ old, s.sequence[index]? = some old → old.isCompleted = false) ∧
    entry.WentTo Command.fail.name ∧ entry.WentTo target

/-! ### Marks that have been there before -/

structure Inherits (s t : State) : Prop where
  marked : ∀ task route, t.RunsOnFail task route → s.RunsOnFail task route

theorem Inherits.refl (s : State) : Inherits s s := ⟨fun _ _ marked => marked⟩

theorem Inherits.trans (first : Inherits s t) (second : Inherits t u) : Inherits s u :=
  ⟨fun task route marked => first.marked task route (second.marked task route marked)⟩

theorem Inherits.of_staged (same : t.staged = s.staged) : Inherits s t := by
  constructor
  rintro task route ⟨x, staged, here, marked⟩
  exact ⟨x, same ▸ staged, here, marked⟩

theorem mem_updateStaged {x : Staged} {f : Staged → Staged}
    (staged : x ∈ (s.updateStaged task route f).staged) :
    x ∈ s.staged ∨ ∃ y ∈ s.staged, y.isAt task route = true ∧ x = f y := by
  obtain ⟨y, before, rfl | ⟨found, rfl⟩⟩ := mem_modify staged
  · exact .inl before
  · exact .inr ⟨y, before, List.findIdx_of_getElem?_eq_some
      (p := fun x => Staged.isAt x task route) found, rfl⟩

theorem inherits_updateStaged (s : State) (task : String) (route : Nat) {f : Staged → Staged}
    (place : ∀ x, (f x).task = x.task ∧ (f x).route = x.route)
    (mark : ∀ x, (f x).runOnFail = x.runOnFail) : Inherits s (s.updateStaged task route f) := by
  constructor
  rintro target way ⟨x, staged, here, marked⟩
  rcases mem_updateStaged staged with before | ⟨y, before, -, rfl⟩
  · exact ⟨x, before, here, marked⟩
  · refine ⟨y, before, ?_, (mark y).symm.trans marked⟩
    rw [Staged.isAt, (place y).1, (place y).2] at here
    exact here

theorem inherits_unstage (s : State) (task : String) (route : Nat) :
    Inherits s (s.unstage task route) := by
  constructor
  rintro target way ⟨x, staged, here, marked⟩
  exact ⟨x, mem_unstage staged, here, marked⟩

theorem inherits_stage (s : State) (task : String) (route : Nat) (contexts : Shared (List Nat))
    (prev : Shared (List (String × Nat))) (ready : Bool) (retry : Option (Shared Value)) :
    Inherits s (s.stage task route contexts prev ready retry) := by
  constructor
  rintro target way ⟨x, staged, here, marked⟩
  rcases List.mem_append.mp staged with old | new
  · exact ⟨x, old, here, marked⟩
  · rw [List.mem_singleton.mp new] at marked
    cases marked

theorem inherits_shelved (s : State) (task : String) (route : Nat) (e : Event) :
    Inherits s (s.shelved task route e) := by
  unfold shelved
  split
  · split
    · exact inherits_unstage s task route
    · exact .refl s
  · exact .refl s

theorem inherits_reach (s : State) (task : String) (route : Nat) :
    Inherits s (s.reach task route) := by
  unfold reach
  split
  · exact inherits_updateStaged s task route (fun _ => ⟨rfl, rfl⟩) fun _ => rfl
  · exact inherits_stage ..

theorem Takes.inherits (takes : Takes task route e s answer t) : Inherits s t := by
  cases takes with
  | refuse => exact .refl s
  | cut opens | plain opens =>
    exact (Inherits.of_staged opens.staged_eq).trans (inherits_shelved ..)
  | item opens =>
    exact (Inherits.of_staged opens.staged_eq).trans
      (inherits_updateStaged _ _ _ (fun _ => ⟨rfl, rfl⟩) fun _ => rfl)

theorem Leaves.inherits (leaves : Leaves task route s t) : Inherits s t := by
  cases leaves with
  | leave => exact inherits_unstage s task route
  | keep => exact inherits_updateStaged s task route (fun _ => ⟨rfl, rfl⟩) fun _ => rfl

theorem Along.inherits {edge : Edge} {found : Option Followers}
    (along : Along g route index edge s found t) : Inherits s t := by
  have reached {routed : State} {way : Nat}
      (routes : Routes route edge (s.note index edge true) way routed) :
      Inherits s (routed.reach edge.target way) :=
    (Inherits.of_staged (s := s) routes.staged_eq).trans (inherits_reach ..)
  cases along with
  | halt | fail | pass | cut | cutFailed => exact .of_staged rfl
  | cutReached routes => exact reached routes
  | go routes =>
    exact (reached routes).trans (inherits_updateStaged _ _ _ (fun _ => ⟨rfl, rfl⟩) fun _ => rfl)

theorem Onward.inherits {edges : List Edge} {found : List Followers} {complete : Bool}
    (onward : Onward g route index edges s found complete t) : Inherits s t := by
  induction onward with
  | done s => exact .refl s
  | cut along => exact along.inherits
  | next along _ ih => exact along.inherits.trans ih

/-! ### Marks that are new -/

theorem runsOnFail_setRunOnFail {tasks : List (String × Nat)}
    (marked : (s.setRunOnFail tasks).RunsOnFail target way) :
    s.RunsOnFail target way ∨ (target, way) ∈ tasks := by
  induction tasks generalizing s with
  | nil => exact .inl marked
  | cons next rest ih =>
    rcases ih marked with ⟨x, staged, here, marked⟩ | inRest
    · rcases mem_updateStaged staged with before | ⟨y, -, there, rfl⟩
      · exact .inl ⟨x, before, here, marked⟩
      · simp only [Staged.isAt, Bool.and_eq_true, beq_iff_eq] at here there
        refine .inr (List.mem_cons.mpr (.inl ?_))
        rw [← here.1, ← here.2, there.1, there.2]
    · exact .inr (List.mem_cons_of_mem _ inRest)

theorem runsOnFail_remedied {found : List Followers}
    (marked : (s.remedied found).RunsOnFail target way) : s.RunsOnFail target way ∨
      (∃ f ∈ found, Command.fail.name ∈ followerNames f) ∧
      ∃ f ∈ found, target ∈ followerNames f := by
  unfold remedied at marked
  split at marked
  case isTrue fails =>
    rcases runsOnFail_setRunOnFail marked with before | among
    · exact .inl before
    · obtain ⟨command, inCommands, isFail⟩ := List.any_eq_true.mp fails
      obtain ⟨f, inFound, inCommands⟩ := List.mem_flatMap.mp inCommands
      obtain ⟨h, inFoundToo, inTasks⟩ := List.mem_flatMap.mp among
      refine .inr ⟨⟨f, inFound, List.mem_append_left _ ?_⟩, h, inFoundToo,
        List.mem_append_right _ ?_⟩
      · exact List.mem_map.mpr ⟨command, inCommands, by rw [eq_of_beq isFail]⟩
      · exact List.mem_map.mpr ⟨(target, way), inTasks, rfl⟩
  case isFalse => exact .inl marked

def HasTaken (s : State) (index : Nat) (edge : Edge) : Prop :=
  ∃ entry, s.sequence[index]? = some entry ∧
    entry.next.lookup (transitionKey edge.target edge.key) = some true

theorem Along.hasTaken_of_ne {edge other : Edge} {found : Option Followers}
    (along : Along g route index edge s found t) (taken : s.HasTaken index other)
    (apart : transitionKey edge.target edge.key ≠ transitionKey other.target other.key) :
    t.HasTaken index other := by
  obtain ⟨entry, there, went⟩ := taken
  rcases along.noted with ⟨-, same⟩ | ⟨now, noted⟩
  · exact ⟨entry, same ▸ there, went⟩
  · exact ⟨_, noted.getElem?_self there, (lookup_putNamed_of_ne _ _ _ apart.symm).trans went⟩

theorem Onward.hasTaken_of_ne {edges : List Edge} {other : Edge} {found : List Followers}
    {complete : Bool} (onward : Onward g route index edges s found complete t)
    (taken : s.HasTaken index other)
    (apart : ∀ edge ∈ edges,
      transitionKey edge.target edge.key ≠ transitionKey other.target other.key) :
    t.HasTaken index other := by
  induction onward with
  | done => exact taken
  | cut along => exact along.hasTaken_of_ne taken (apart _ List.mem_cons_self)
  | next along _ ih =>
    exact ih (along.hasTaken_of_ne taken (apart _ List.mem_cons_self)) fun edge inRest =>
      apart edge (List.mem_cons_of_mem _ inRest)

theorem Onward.hasTaken {edges : List Edge} {found : List Followers} {complete : Bool}
    (onward : Onward g route index edges s found complete t)
    (there : s.sequence[index]? = some entry)
    (apart : edges.Pairwise fun e f =>
      transitionKey e.target e.key ≠ transitionKey f.target f.key) :
    ∀ f ∈ found, ∀ name ∈ followerNames f, ∃ edge ∈ edges, edge.target = name ∧
      t.HasTaken index edge := by
  induction onward generalizing entry with
  | done | cut => exact fun _ mem => by cases mem
  | next along onward ih =>
    intro f mem name follows
    obtain ⟨headApart, restApart⟩ := List.pairwise_cons.mp apart
    rcases List.mem_cons.mp mem with rfl | inRest
    · obtain ⟨rfl, noted⟩ := along.taken follows
      have taken : State.HasTaken _ _ _ := ⟨_, noted.getElem?_self there, lookup_putNamed_self ..⟩
      exact ⟨_, List.mem_cons_self, rfl,
        onward.hasTaken_of_ne taken fun edge inRest => (headApart edge inRest).symm⟩
    · obtain ⟨_, thereStill, -⟩ := along.renoted.entryAt there
      obtain ⟨edge, inRest, leads, taken⟩ := ih thereStill restApart f inRest name follows
      exact ⟨edge, List.mem_cons_of_mem _ inRest, leads, taken⟩

/-! ### Reports -/

theorem Turns.tasks_eq (turns : Turns e index s old new t) : t.tasks = s.tasks := by
  cases turns
  rfl

theorem Turns.getElem?_of_ne {i : Nat} (turns : Turns e index s old new t) (elsewhere : i ≠ index) :
    t.sequence[i]? = s.sequence[i]? := by
  cases turns
  exact List.getElem?_modify_ne _ _ elsewhere.symm

/-- An entry comes from one status to the other, and a status in which a task is completed is not
left for another one. -/
theorem Turns.entryAt (turns : Turns e index s old new t) :
    (∃ entry, s.sequence[index]? = some entry ∧ entry.status = old) ∧
      (∃ entry, t.sequence[index]? = some entry ∧ entry.status = new) ∧
      (new.isCompleted = true → new ≠ old.orUnset → old.isCompleted = false) := by
  cases turns with
  | @turn entry answer found led =>
    refine ⟨⟨entry, found, rfl⟩, ⟨{ entry with status := answer.getD entry.status }, ?_, rfl⟩, ?_⟩
    · rw [updateEntry, List.getElem?_modify_eq, found]
      rfl
    · obtain ⟨signal, -, led⟩ := bind_eq_ok.mp led
      exact Machine.Task.isCompleted_of_step led

/-- No entry has changed that was there before, and no task but commands has a new one. -/
structure Appends (s t : State) : Prop where
  entries : ∀ (i : Nat) entry, s.sequence[i]? = some entry → t.sequence[i]? = some entry
  latest : ∀ task route, Command.isName task = false → t.index? task route = s.index? task route

theorem Appends.refl (s : State) : Appends s s := ⟨fun _ _ found => found, fun _ _ _ => rfl⟩

theorem Appends.trans (first : Appends s t) (second : Appends t u) : Appends s u where
  entries i entry found := second.entries i entry (first.entries i entry found)
  latest task route named := (second.latest task route named).trans (first.latest task route named)

theorem Appends.of_eq (sequence : t.sequence = s.sequence) (tasks : t.tasks = s.tasks) :
    Appends s t where
  entries i entry found := by rw [sequence, found]
  latest task route _ := by rw [index?, index?, tasks]

theorem appends_addEntry (s : State) {name : String} (command : Command.isName name = true)
    (route : Nat) : Appends s (s.addEntry (freshEntry name route)) where
  entries i entry found := List.getElem?_append_left (List.getElem?_eq_some_iff.mp found).1 ▸ found
  latest task way named := by
    refine lookup_putNamed_of_ne _ _ _ fun same => ?_
    rw [(taskKey_inj same).1] at named
    exact Bool.noConfusion (named.symm.trans command)

theorem Takes.appends (takes : Takes task route e s answer t)
    (command : Command.isName task = true) :
    Appends s t ∧ ∀ index, answer = some index → s.sequence[index]? = none := by
  rcases takes.opened with ⟨rfl, rfl⟩ | ⟨index, opened, answered, ⟨-, -, named, -⟩ | ⟨rfl, rfl⟩,
    sequence, tasks⟩
  · exact ⟨.refl t, fun _ none => by cases none⟩
  · exact Bool.noConfusion (named.symm.trans command)
  · refine ⟨(appends_addEntry s command route).trans (.of_eq sequence tasks), fun i about => ?_⟩
    rcases answered with rfl | rfl
    · cases about
    · cases about
      exact List.getElem?_eq_none (Nat.le_refl _)

/-- What is marked when a task reacts to an event is what it went on to, if it went on to `fail` as
well. -/
theorem Reacts.runsOnFail (drawn : g.Drawn)
    (reacts : Reacts g task route index old new s reaction t)
    (there : s.sequence[index]? = some entry) (marked : t.RunsOnFail target way) :
    s.RunsOnFail target way ∨
      (g.nextTransitions task ≠ [] ∧ new.isCompleted = true ∧ new ≠ old.orUnset ∧
        (∃ commands, reaction = .go commands) ∧
        ∃ entry, t.sequence[index]? = some entry ∧ entry.WentTo Command.fail.name ∧
          entry.WentTo target) := by
  have before (inherits : Inherits s t) : s.RunsOnFail target way :=
    inherits.marked target way marked
  cases reacts with
  | cut | stay => exact .inl marked
  | retry => exact .inl (before ((inherits_unstage ..).trans (inherits_stage ..)))
  | leave _ leaves | again _ leaves | same _ _ leaves => exact .inl (before leaves.inherits)
  | halt _ _ leaves onward => exact .inl (before (leaves.inherits.trans onward.inherits))
  | @go left gone found completed changed leaves onward =>
    rcases runsOnFail_remedied marked with marked | ⟨⟨f, inFound, fails⟩, h, inFoundToo, leads⟩
    · exact .inl ((leaves.inherits.trans onward.inherits).marked target way marked)
    obtain ⟨entry, thereLast, -⟩ := (leaves.renoted.trans onward.renoted).entryAt there
    obtain ⟨_, thereStill, -⟩ := leaves.renoted.entryAt there
    have went (f : Followers) (inFound : f ∈ found) (name : String)
        (follows : name ∈ followerNames f) : g.nextTransitions task ≠ [] ∧ entry.WentTo name := by
      obtain ⟨edge, among, rfl, last, atIndex, taken⟩ :=
        onward.hasTaken thereStill (drawn.nextTransitions_apart task) f inFound name follows
      cases atIndex.symm.trans thereLast
      obtain ⟨n, key⟩ := drawn.numbered edge (Graph.mem_nextTransitions.mp among).1
      exact ⟨List.ne_nil_of_mem among, n, key ▸ taken⟩
    refine .inr ⟨(went f inFound _ fails).1, completed, changed, ⟨_, rfl⟩, entry, ?_,
      (went f inFound _ fails).2, (went h inFoundToo _ leads).2⟩
    rw [remedied_eq]
    exact thereLast

theorem Reacts.commands_eq {commands : List (Command × Nat)} (last : g.nextTransitions task = [])
    (reacts : Reacts g task route index old new s (.go commands) t) : commands = [] := by
  cases reacts with
  | retry | stay | same => rfl
  | go _ _ _ onward =>
    rw [last] at onward
    cases onward
    rfl

/-- A command, when it is carried out, marks nothing, and leaves the entries alone that are
there. -/
theorem Updates.command (drawn : g.Drawn) (command : Command.isName task = true) :
    ∀ {depth : Nat} {e : Event} {s t : State}, Updates g depth task route e s t →
      Appends s t ∧ Inherits s t
  | 0, _, s, _, rfl => ⟨.refl s, .refl s⟩
  | depth + 1, e, s, t, updates => by
    rcases updates with takes | ⟨index, taken, takes, updates⟩
    · exact ⟨(takes.appends command).1, takes.inherits⟩
    obtain ⟨appends, new⟩ := takes.appends command
    rcases updates with rfl | ⟨old, now, turned, turns, updates⟩
    · exact ⟨appends, takes.inherits⟩
    have last : g.nextTransitions task = [] := drawn.nextTransitions_command command
    obtain ⟨-, ⟨entry, there, -⟩, -⟩ := turns.entryAt
    have reacted {reaction : Reaction} {u : State}
        (reacts : Reacts g task route index old now turned reaction u) : Appends s u ∧
        Inherits s u := by
      constructor
      · constructor
        · intro i known found
          have elsewhere : i ≠ index := fun same => by
            rw [same, new index rfl] at found
            cases found
          rw [reacts.renoted.getElem?_of_ne elsewhere, turns.getElem?_of_ne elsewhere]
          exact appends.entries i known found
        · intro other way named
          rw [index?, reacts.renoted.tasks, turns.tasks_eq]
          exact appends.latest other way named
      · constructor
        intro target way marked
        rcases reacts.runsOnFail drawn there marked with before | ⟨notLast, -⟩
        · exact (takes.inherits.trans (.of_staged turns.staged_eq)).marked target way before
        · exact (notLast last).elim
    rcases updates with reacts | ⟨u, ⟨reacts, again⟩ | ⟨commands, reacts, ensues⟩⟩
    · exact reacted reacts
    · obtain ⟨appendsNext, inheritsNext⟩ := Updates.command drawn command again
      exact ⟨(reacted reacts).1.trans appendsNext, (reacted reacts).2.trans inheritsNext⟩
    · obtain rfl := reacts.commands_eq last
      obtain ⟨appendsNow, inheritsNow⟩ := reacted reacts
      obtain ⟨_, rfl⟩ := ensues.restates
      exact ⟨appendsNow.trans (.of_eq rfl rfl), inheritsNow.trans (.of_staged rfl)⟩

/-- What is received is about the latest entry of a task. The entries that were there are there
still. -/
theorem Takes.latest (takes : Takes task route e s (some index) t) :
    t.index? task route = some index ∧ ∀ i : Nat, ∀ entry, s.sequence[i]? = some entry →
      t.sequence[i]? = some entry := by
  rcases takes.opened with ⟨none, -⟩ | ⟨_, opened, none | answered, opens, sequence, tasks⟩
  · cases none
  · cases none
  · cases answered
    rw [index?, tasks, sequence]
    rcases opens with ⟨rfl, latest, -, -⟩ | ⟨rfl, rfl⟩
    · exact ⟨latest, fun _ _ found => found⟩
    · refine ⟨index?_addEntry s task route, fun i entry found => ?_⟩
      exact List.getElem?_append_left (List.getElem?_eq_some_iff.mp found).1 ▸ found

theorem Ensues.command {depth : Nat} {commands : List (Command × Nat)} (drawn : g.Drawn)
    (ensues : Ensues g task route
      (fun next => Updates g depth next.1.name next.2 (.command next.1)) commands
      s t) : Appends s t ∧ Inherits s t := by
  rcases ensues with rfl | ⟨_, followed, done, follows, -, chained⟩
  · exact ⟨.refl t, .refl t⟩
  · obtain ⟨_, rfl⟩ := follows.restates
    refine chained.keep (fun t => Appends s t ∧ Inherits s t) ?_ ⟨.of_eq rfl rfl, .of_staged rfl⟩
    rintro next middle last ⟨appends, inherits⟩ updates
    obtain ⟨appendsNext, inheritsNext⟩ := updates.command drawn (Command.isName_name next.1)
    exact ⟨appends.trans appendsNext, inherits.trans inheritsNext⟩

/-- An entry that was not completed when a task was to be tried again was not completed before
either. -/
theorem Reacts.fresh_of_again {place : Nat} (turns : Turns e index s old new t)
    (reacts : Reacts g task route index old new t .again u)
    (fresh : ∀ known, u.sequence[place]? = some known → known.isCompleted = false) {known : Entry}
    (found : s.sequence[place]? = some known) : known.isCompleted = false := by
  obtain ⟨-, ⟨after, atAfter, isNew⟩, -⟩ := turns.entryAt
  -- The entry that was reported on has been completed already, so another one is meant.
  have elsewhere : place ≠ index := by
    rintro rfl
    obtain ⟨last, atLast, same⟩ := reacts.renoted.entryAt atAfter
    have ended : last.isCompleted = true := by
      cases reacts with
      | again completed => exact (congrArg Status.isCompleted (same.trans isNew)).trans completed
    exact Bool.noConfusion (ended.symm.trans (fresh last atLast))
  refine fresh known ?_
  rw [reacts.renoted.getElem?_of_ne elsewhere, turns.getElem?_of_ne elsewhere]
  exact found

theorem Reacts.completed_now (turns : Turns e index s old new t)
    (reacts : Reacts g task route index old new t reaction u) (completed : new.isCompleted = true)
    (changed : new ≠ old.orUnset) :
    (∀ entry, u.sequence[index]? = some entry → entry.isCompleted = true) ∧
      ∀ known, s.sequence[index]? = some known → known.isCompleted = false := by
  obtain ⟨⟨before, atBefore, wasOld⟩, ⟨after, atAfter, isNew⟩, changes⟩ := turns.entryAt
  constructor
  · intro entry there
    obtain ⟨last, atLast, same⟩ := reacts.renoted.entryAt atAfter
    cases atLast.symm.trans there
    exact (congrArg Status.isCompleted (same.trans isNew)).trans completed
  · intro known found
    cases found.symm.trans atBefore
    exact (congrArg Status.isCompleted wasOld).trans (changes completed changed)

/-- A report marks nothing but what its task goes on to when it is completed, and only if it goes on
to `fail` as well. -/
theorem Updates.runsOnFail (drawn : g.Drawn) : ∀ {depth : Nat} {e : Event} {s t : State},
    Updates g depth task route e s t → t.RunsOnFail target way →
    s.RunsOnFail target way ∨ Remedies s t task route target
  | 0, _, _, _, rfl, marked => .inl marked
  | depth + 1, e, s, t, updates, marked => by
    cases named : Command.isName task with
    | true => exact .inl ((updates.command drawn named).2.marked target way marked)
    | false =>
      rcases updates with takes | ⟨index, taken, takes, rfl | ⟨old, new, turned, turns, updates⟩⟩
      · exact .inl (takes.inherits.marked target way marked)
      · exact .inl (takes.inherits.marked target way marked)
      have inherits : Inherits s turned := takes.inherits.trans (.of_staged turns.staged_eq)
      obtain ⟨latest, kept⟩ := takes.latest
      obtain ⟨-, ⟨after, atAfter, -⟩, -⟩ := turns.entryAt
      rcases updates with reacts | ⟨u, ⟨reacts, again⟩ | ⟨commands, reacts, ensues⟩⟩
      · rcases reacts.runsOnFail drawn atAfter marked with marked | ⟨-, -, -, ⟨_, stopped⟩, -⟩
        · exact .inl (inherits.marked target way marked)
        · cases stopped
      · rcases again.runsOnFail drawn marked
          with marked | ⟨place, entry, latestNow, there, completed, fresh, went⟩
        · rcases reacts.runsOnFail drawn atAfter marked with marked | ⟨-, -, -, ⟨_, stopped⟩, -⟩
          · exact .inl (inherits.marked target way marked)
          · cases stopped
        · refine .inr ⟨place, entry, latestNow, there, completed, fun known found => ?_, went⟩
          exact reacts.fresh_of_again turns fresh (kept place known found)
      · obtain ⟨appends, inheritsLast⟩ := ensues.command drawn
        have marked := inheritsLast.marked target way marked
        rcases reacts.runsOnFail drawn atAfter marked
          with marked | ⟨-, completed, changed, -, entry, there, went⟩
        · exact .inl (inherits.marked target way marked)
        · obtain ⟨ended, fresh⟩ := reacts.completed_now turns completed changed
          refine .inr
            ⟨index, entry, ?_, appends.entries index entry there, ended entry there,
              fun known found => ?_, went⟩
          · rw [appends.latest task route named, index?, reacts.renoted.tasks, turns.tasks_eq]
            exact latest
          · exact fresh known (kept index known found)

/-! ### Other calls -/

theorem Tells.staged_eq {status : Status} (tells : Tells status s t) : t.staged = s.staged := by
  obtain ⟨index, entry, scope, new, -, -, rfl⟩ := tells
  rfl

theorem inherits_of_tells {status : Status} (tells : ReflTransGen (Tells status) s t) :
    Inherits s t := by
  induction tells with
  | refl => exact .refl s
  | tail _ tells ih => exact ih.trans (.of_staged tells.staged_eq)

theorem Asked.inherits {status : Status} (asked : Asked status s t) : Inherits s t := by
  obtain ⟨told, word, tells, rfl⟩ := asked
  exact (inherits_of_tells tells).trans (.of_staged rfl)

theorem Begins.inherits (begins : Begins s t) : Inherits s t := by
  cases begins with
  | begin task route count =>
    refine inherits_updateStaged s task route (fun x => ?_) fun x => ?_
    · split <;> exact ⟨rfl, rfl⟩
    · split <;> rfl

theorem Offered.inherits (offered : Offered s t) : Inherits s t := by
  obtain ⟨begun, begins, kept⟩ := offered
  have first : Inherits s begun := by
    clear kept
    induction begins with
    | refl => exact .refl s
    | tail _ begins ih => exact ih.trans begins.inherits
  rcases kept with rfl | rfl
  · exact first
  · exact first.trans (.of_staged rfl)

/-! ### Whole states -/

@[simp]
theorem runsOnFail_sketch : s.sketch.RunsOnFail task route ↔ s.RunsOnFail task route := by
  constructor
  · rintro ⟨_, staged, here, marked⟩
    obtain ⟨x, inStaged, rfl⟩ := List.mem_map.mp staged
    exact ⟨x, inStaged, here, marked⟩
  · rintro ⟨x, staged, here, marked⟩
    exact ⟨x.sketch, List.mem_map_of_mem staged, here, marked⟩

theorem Remedies.of_sketch (remedies : Remedies s.sketch t.sketch task route target) :
    Remedies s t task route target := by
  obtain ⟨index, _, latest, found, completed, fresh, went⟩ := remedies
  rw [getElem?_sketch] at found
  obtain ⟨entry, there, rfl⟩ := Option.map_eq_some_iff.mp found
  refine ⟨index, entry, latest, there, completed, fun old before => ?_, went⟩
  exact fresh old.outline (by rw [getElem?_sketch, before]; rfl)

end State

end Orchestration
