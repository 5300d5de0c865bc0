import Orchestration.Proofs.Progress
import Orchestration.Proofs.Remedies

/-!
What is staged for one task, as far as its items are concerned, and what leaves it alone.

A report about another task leaves a task as it is, unless that other task is completed by it and
goes on to the task: then the task is staged afresh, and nothing is known of its items any more.
-/

namespace Orchestration

open Relation (ReflTransGen)
open Conductor (Followers)

structure Batch where
  items : Option (List Status)
  ready : Bool
  completed : Bool

def Staged.batch (x : Staged) : Batch := ⟨x.items, x.ready, x.completed⟩

def Batch.begin (count : Nat) (b : Batch) : Batch :=
  if (b.items.getD []).isEmpty then { b with items := some (List.replicate count .unset) } else b

/-! ### Lists -/

section Lists

variable {α : Type} {p q : α → Bool} {f : α → α}

theorem filter_modify_findIdx_of_apart (apart : ∀ x, q x = true → p x = false ∧ p (f x) = false)
    (list : List α) : (list.modify (list.findIdx q) f).filter p = list.filter p := by
  induction list with
  | nil => rfl
  | cons x rest ih =>
    rw [List.findIdx_cons]
    cases here : q x with
    | true => simp [apart x here]
    | false => simp [List.filter_cons, ih]

theorem filter_modify_findIdx (kept : ∀ x, p (f x) = p x) (list : List α) :
    (list.modify (list.findIdx p) f).filter p = (list.filter p).modifyHead f := by
  induction list with
  | nil => rfl
  | cons x rest ih =>
    rw [List.findIdx_cons]
    cases here : p x with
    | true => simp [here, kept]
    | false => simpa [List.filter_cons, here] using ih

theorem filter_eraseP_of_apart (apart : ∀ x, q x = true → p x = false) (list : List α) :
    (list.eraseP q).filter p = list.filter p := by
  induction list with
  | nil => rfl
  | cons x rest ih =>
    rw [List.eraseP_cons]
    cases here : q x with
    | true => simp [apart x here]
    | false => simp [List.filter_cons, ih]

theorem filter_eraseP (list : List α) : (list.eraseP p).filter p = (list.filter p).tail := by
  induction list with
  | nil => rfl
  | cons x rest ih =>
    rw [List.eraseP_cons]
    cases here : p x with
    | true => simp [here]
    | false => simp [here, ih]

end Lists

namespace State

def batches (s : State) (task : String) (route : Nat) : List Batch :=
  (s.staged.filter (·.isAt task route)).map Staged.batch

variable {s t u : State} {task target : String} {route way : Nat}

@[simp]
theorem batches_sketch (s : State) (task : String) (route : Nat) :
    s.sketch.batches task route = s.batches task route := by
  simp only [batches, sketch, List.filter_map, List.map_map]
  rfl

theorem batches_of_staged (same : t.staged = s.staged) :
    t.batches task route = s.batches task route := by
  rw [batches, batches, same]

theorem head?_batches (s : State) (task : String) (route : Nat) :
    (s.batches task route).head? = (s.staged? task route).map Staged.batch := by
  rw [batches, staged?, List.head?_map, List.head?_filter]

theorem staged?_of_batches {b : Batch} {rest : List Batch}
    (staged : s.batches task route = b :: rest) :
    ∃ x, s.staged? task route = some x ∧ x.batch = b := by
  have head := head?_batches s task route
  rw [staged, List.head?_cons] at head
  exact Option.map_eq_some_iff.mp head.symm

theorem staged?_of_batches_nil (nothing : s.batches task route = []) :
    s.staged? task route = none := by
  have head := head?_batches s task route
  rw [nothing] at head
  exact Option.map_eq_none_iff.mp head.symm

theorem not_isAt_of_ne (apart : (task, route) ≠ (target, way)) {x : Staged}
    (there : x.isAt task route = true) : x.isAt target way = false := by
  simp only [Staged.isAt, Bool.and_eq_true, beq_iff_eq] at there
  rw [Bool.eq_false_iff]
  intro here
  simp only [Staged.isAt, Bool.and_eq_true, beq_iff_eq] at here
  exact apart (by rw [← there.1, ← there.2, here.1, here.2])

/-! ### How batches change -/

section Apart

variable (apart : (task, route) ≠ (target, way))

include apart

theorem batches_updateStaged_of_ne {f : Staged → Staged}
    (place : ∀ x, (f x).task = x.task ∧ (f x).route = x.route) :
    (s.updateStaged task route f).batches target way = s.batches target way := by
  refine congrArg (List.map Staged.batch)
    (filter_modify_findIdx_of_apart (fun x there => ?_) s.staged)
  have still : (f x).isAt task route = true := by
    rw [Staged.isAt, (place x).1, (place x).2]
    exact there
  exact ⟨not_isAt_of_ne apart there, not_isAt_of_ne apart still⟩

theorem batches_unstage_of_ne :
    (s.unstage task route).batches target way = s.batches target way := by
  unfold unstage
  split
  · split
    · rfl
    · refine congrArg (List.map Staged.batch) (filter_eraseP_of_apart (fun x there => ?_) s.staged)
      exact not_isAt_of_ne apart there
  · rfl

theorem batches_stage_of_ne (contexts : Shared (List Nat))
    (prev : Shared (List (String × Nat))) (ready : Bool) (retry : Option (Shared Value)) :
    (s.stage task route contexts prev ready retry).batches target way = s.batches target way := by
  have elsewhere : Staged.isAt ⟨task, route, contexts, prev, ready, retry, none, false, false⟩
      target way = false :=
    not_isAt_of_ne apart (by simp [Staged.isAt])
  simp [batches, stage, elsewhere]

theorem batches_reach_of_ne : (s.reach task route).batches target way = s.batches target way := by
  unfold reach
  split
  · exact batches_updateStaged_of_ne apart (by intro _; exact ⟨rfl, rfl⟩)
  · exact batches_stage_of_ne apart ..

theorem batches_shelved_of_ne (e : Event) :
    (s.shelved task route e).batches target way = s.batches target way := by
  unfold shelved
  split
  · split
    · exact batches_unstage_of_ne apart
    · rfl
  · rfl

theorem batches_begin_of_ne (count : Nat) :
    (s.updateStaged task route fun x =>
        if (x.items.getD []).isEmpty then { x with items := some (List.replicate count .unset) }
          else x).batches
      target way = s.batches target way := by
  refine batches_updateStaged_of_ne apart fun x => ?_
  split <;> exact ⟨rfl, rfl⟩

end Apart

theorem batches_updateStaged {f : Staged → Staged} {h : Batch → Batch}
    (place : ∀ x, (f x).task = x.task ∧ (f x).route = x.route)
    (same : ∀ x, (f x).batch = h x.batch) (s : State) (task : String) (route : Nat) :
    (s.updateStaged task route f).batches task route = (s.batches task route).modifyHead h := by
  have still (x : Staged) : (f x).isAt task route = x.isAt task route := by
    rw [Staged.isAt, (place x).1, (place x).2]
    rfl
  unfold batches
  rw [updateStaged, filter_modify_findIdx still]
  cases s.staged.filter (·.isAt task route) with
  | nil => rfl
  | cons x rest => simp [same]

theorem batches_begin (s : State) (task : String) (route count : Nat) :
    (s.updateStaged task route fun x =>
        if (x.items.getD []).isEmpty then { x with items := some (List.replicate count .unset) }
          else x).batches
      task route = (s.batches task route).modifyHead (Batch.begin count) := by
  refine batches_updateStaged (fun x => ?_) (fun x => ?_) s task route
  · split <;> exact ⟨rfl, rfl⟩
  · unfold Batch.begin
    change _ = if (x.items.getD []).isEmpty = true then _ else _
    split <;> rfl

theorem batches_unstage (s : State) (task : String) (route : Nat) :
    (s.unstage task route).batches task route = s.batches task route ∨
      (s.unstage task route).batches task route = (s.batches task route).tail ∧
        ∀ b ∈ (s.batches task route).head?, (b.items.getD []).any (·.isActive) = false := by
  unfold unstage
  split
  case h_1 x found =>
    split
    · exact .inl rfl
    case isFalse idle =>
      refine .inr ⟨?_, fun b first => ?_⟩
      · simp only [batches, filter_eraseP, List.map_tail]
      · rw [head?_batches, found] at first
        cases first
        exact Bool.eq_false_iff.mpr idle
  case h_2 => exact .inl rfl

theorem batches_setRunOnFail (s : State) (tasks : List (String × Nat)) (task : String)
    (route : Nat) : (s.setRunOnFail tasks).batches task route = s.batches task route := by
  induction tasks generalizing s with
  | nil => rfl
  | cons next rest ih =>
    refine (ih (s.updateStaged next.1 next.2 fun t => { t with runOnFail := true })).trans ?_
    by_cases here : (next.1, next.2) = (task, route)
    case pos =>
      cases here
      rw [batches_updateStaged (h := id) (by intro _; exact ⟨rfl, rfl⟩) (by intro _; rfl)]
      cases s.batches next.1 next.2 <;> rfl
    case neg => exact batches_updateStaged_of_ne here (by intro _; exact ⟨rfl, rfl⟩)

theorem batches_remedied (s : State) (found : List Followers) (task : String) (route : Nat) :
    (s.remedied found).batches task route = s.batches task route := by
  unfold remedied
  split
  · exact batches_setRunOnFail ..
  · rfl

/-! ### Transitions -/

/-- What is staged first for a task has no items any more, or a task that was not staged is staged
now. -/
def Refreshed (task : String) (route : Nat) (s t : State) : Prop :=
  ∃ b : Batch, b.items = none ∧ t.batches task route = b :: (s.batches task route).tail

theorem Refreshed.of_eq (refreshed : Refreshed task route s t)
    (same : u.batches task route = t.batches task route) : Refreshed task route s u := by
  obtain ⟨b, none, staged⟩ := refreshed
  exact ⟨b, none, same.trans staged⟩

theorem Refreshed.after_eq (refreshed : Refreshed task route t u)
    (same : t.batches task route = s.batches task route) : Refreshed task route s u := by
  obtain ⟨b, none, staged⟩ := refreshed
  exact ⟨b, none, same ▸ staged⟩

theorem Refreshed.trans (first : Refreshed task route s t) (second : Refreshed task route t u) :
    Refreshed task route s u := by
  obtain ⟨_, -, staged⟩ := first
  obtain ⟨b, none, again⟩ := second
  exact ⟨b, none, by rw [again, staged]; rfl⟩

theorem refreshed_reach (s : State) (task : String) (route : Nat) :
    Refreshed task route s (s.reach task route) := by
  have head := head?_batches s task route
  unfold reach
  split
  case h_1 x found =>
    rw [found] at head
    obtain ⟨rest, staged⟩ := List.head?_eq_some_iff.mp head
    refine ⟨⟨none, x.ready, false⟩, rfl, ?_⟩
    rw [batches_updateStaged (h := fun b => ⟨none, b.ready, false⟩) (by intro _; exact ⟨rfl, rfl⟩)
      (by intro _; rfl), staged]
    rfl
  case h_2 missing =>
    rw [missing] at head
    have none : s.batches task route = [] := List.head?_eq_none_iff.mp head
    refine ⟨⟨Option.none, false, false⟩, rfl, ?_⟩
    have nothing : s.staged.filter (·.isAt task route) = [] := List.map_eq_nil_iff.mp none
    rw [none, batches, stage, List.filter_append, nothing]
    simp [Staged.isAt, Staged.batch]

theorem refreshed_setReady (refreshed : Refreshed task route s t) (ready : Bool) :
    Refreshed task route s (t.setReady task route ready) := by
  obtain ⟨b, none, staged⟩ := refreshed
  refine ⟨⟨b.items, ready, b.completed⟩, none, ?_⟩
  rw [setReady, batches_updateStaged (h := fun b => ⟨b.items, ready, b.completed⟩)
    (by intro _; exact ⟨rfl, rfl⟩) (by intro _; rfl), staged]
  rfl

section Transitions

variable {g : Graph} {index : Nat} {edge : Edge} {old new : Status}

/-- A transition leaves a task as it is, or it leads to the task and is taken. -/
theorem Along.batches {found : Option Followers} (along : Along g route index edge s found t)
    (target : String) (way : Nat) :
    t.batches target way = s.batches target way ∨
      Refreshed target way s t ∧ edge.target = target ∧ Noted index edge true s t := by
  have reached {routed : State} {path : Nat}
      (routes : Routes route edge (s.note index edge true) path routed) :
      Noted index edge true s (routed.reach edge.target path) ∧
        ((edge.target, path) = (target, way) ∧
          Refreshed target way s (routed.reach edge.target path) ∨
          (edge.target, path) ≠ (target, way) ∧
            (routed.reach edge.target path).batches target way = s.batches target way) := by
    have before : routed.batches target way = s.batches target way :=
      batches_of_staged (s := s) routes.staged_eq
    refine ⟨⟨(tasks_reach ..).trans routes.tasks_eq, (sequence_reach ..).trans routes.sequence_eq⟩,
      ?_⟩
    by_cases here : (edge.target, path) = (target, way)
    case pos =>
      cases here
      exact .inl ⟨rfl, (refreshed_reach routed edge.target _).after_eq before⟩
    case neg => exact .inr ⟨here, (batches_reach_of_ne here).trans before⟩
  cases along with
  | halt | fail | pass | cut | cutFailed => exact .inl rfl
  | cutReached routes =>
    obtain ⟨noted, ⟨here, refreshed⟩ | ⟨-, same⟩⟩ := reached routes
    · exact .inr ⟨refreshed, congrArg Prod.fst here, noted⟩
    · exact .inl same
  | go routes =>
    obtain ⟨noted, ⟨here, refreshed⟩ | ⟨apart, same⟩⟩ := reached routes
    · cases here
      exact .inr ⟨refreshed_setReady refreshed _, rfl, noted.tasks, noted.sequence⟩
    · exact .inl ((batches_updateStaged_of_ne apart (by intro _; exact ⟨rfl, rfl⟩)).trans same)

/-- Transitions leave a task as it is, or one of them leads to the task and is taken. -/
theorem Onward.batches {edges : List Edge} {found : List Followers} {complete : Bool}
    {entry : Entry} (onward : Onward g route index edges s found complete t)
    (there : s.sequence[index]? = some entry)
    (apart : edges.Pairwise fun e f => transitionKey e.target e.key ≠ transitionKey f.target f.key)
    (target : String) (way : Nat) : t.batches target way = s.batches target way ∨
      Refreshed target way s t ∧ ∃ edge ∈ edges, edge.target = target ∧ t.HasTaken index edge := by
  induction onward generalizing entry with
  | done => exact .inl rfl
  | cut along =>
    rcases along.batches target way with same | ⟨refreshed, leads, noted⟩
    · exact .inl same
    · exact .inr ⟨refreshed, _, List.mem_cons_self, leads, _, noted.getElem?_self there,
        lookup_putNamed_self ..⟩
  | next along onward ih =>
    obtain ⟨headApart, restApart⟩ := List.pairwise_cons.mp apart
    obtain ⟨_, thereStill, -⟩ := along.renoted.entryAt there
    have later := ih thereStill restApart
    rcases along.batches target way with same | ⟨refreshed, leads, noted⟩
    · rcases later with still | ⟨refreshed, edge, inRest, leads, taken⟩
      · exact .inl (still.trans same)
      · exact .inr ⟨refreshed.after_eq same, edge, List.mem_cons_of_mem _ inRest, leads, taken⟩
    · rcases later with still | ⟨again, edge, inRest, leads, taken⟩
      · have taken : State.HasTaken _ _ _ := ⟨_, noted.getElem?_self there, lookup_putNamed_self ..⟩
        exact .inr ⟨refreshed.of_eq still, _, List.mem_cons_self, leads,
          onward.hasTaken_of_ne taken fun edge inRest => (headApart edge inRest).symm⟩
      · exact .inr ⟨refreshed.trans again, edge, List.mem_cons_of_mem _ inRest, leads, taken⟩

/-- From one state to another an entry has come to be completed, and its task has gone on to another
one. -/
def Completes (s t : State) (target : String) : Prop :=
  ∃ (index : Nat) (entry : Entry), t.sequence[index]? = some entry ∧ entry.isCompleted = true ∧
    (∀ old, s.sequence[index]? = some old → old.isCompleted = false) ∧ entry.WentTo target

inductive Withdraws (task : String) (route : Nat) (new : Status) (s : State) :
    Reaction → State → Prop where
  | stay {reaction : Reaction} : Withdraws task route new s reaction s
  | leave {reaction : Reaction} {left : State} : new.isCompleted = true → Leaves task route s left →
      Withdraws task route new s reaction left
  | again : new = .retrying → Withdraws task route new s (.go [])
      ((s.unstage task route).stage task route ⟨0, []⟩ ⟨0, []⟩ true none)

/-- A task that reacts to an event leaves staging or not, and then leaves another one as it is or
goes on to it. -/
theorem Reacts.batches {entry : Entry} {reaction : Reaction} (drawn : g.Drawn)
    (reacts : Reacts g task route index old new s reaction t)
    (there : s.sequence[index]? = some entry) (target : String) (way : Nat) :
    ∃ left, Withdraws task route new s reaction left ∧
      (t.batches target way = left.batches target way ∨ Refreshed target way left t ∧
        g.nextTransitions task ≠ [] ∧ new.isCompleted = true ∧ new ≠ old.orUnset ∧
        ∃ entry, t.sequence[index]? = some entry ∧ entry.WentTo target) := by
  have went {left gone : State} {found : List Followers} {complete : Bool}
      (leaves : Leaves task route s left)
      (onward : Onward g route index (g.nextTransitions task) left found complete gone) :
      gone.batches target way = left.batches target way ∨ Refreshed target way left gone ∧
        g.nextTransitions task ≠ [] ∧ ∃ entry, gone.sequence[index]? = some entry ∧
        entry.WentTo target := by
    obtain ⟨_, thereStill, -⟩ := leaves.renoted.entryAt there
    rcases onward.batches thereStill (drawn.nextTransitions_apart task) target way with
      same | ⟨refreshed, edge, among, rfl, taken⟩
    · exact .inl same
    · obtain ⟨entry, last, taken⟩ := taken
      obtain ⟨n, key⟩ := drawn.numbered edge (Graph.mem_nextTransitions.mp among).1
      exact .inr ⟨refreshed, List.ne_nil_of_mem among, entry, last, n, key ▸ taken⟩
  cases reacts with
  | cut | stay => exact ⟨s, .stay, .inl rfl⟩
  | retry retrying => exact ⟨_, .again retrying, .inl rfl⟩
  | leave completed leaves | again completed leaves | same completed _ leaves =>
    exact ⟨_, .leave completed leaves, .inl rfl⟩
  | halt completed changed leaves onward =>
    refine ⟨_, .leave completed leaves, ?_⟩
    rcases went leaves onward with same | ⟨refreshed, some, entry⟩
    · exact .inl same
    · exact .inr ⟨refreshed, some, completed, changed, entry⟩
  | @go left gone found completed changed leaves onward =>
    refine ⟨_, .leave completed leaves, ?_⟩
    have kept := batches_remedied gone found target way
    rcases went leaves onward with same | ⟨refreshed, some, entry⟩
    · exact .inl (kept.trans same)
    · refine .inr ⟨refreshed.of_eq kept, some, completed, changed, ?_⟩
      rw [remedied_eq]
      exact entry

theorem Withdraws.batches_of_ne {reaction : Reaction}
    (withdraws : Withdraws task route new s reaction t) (apart : (task, route) ≠ (target, way)) :
    t.batches target way = s.batches target way := by
  cases withdraws with
  | stay => rfl
  | leave _ leaves =>
    cases leaves with
    | leave => exact batches_unstage_of_ne apart
    | keep => exact batches_updateStaged_of_ne apart (by intro _; exact ⟨rfl, rfl⟩)
  | again => exact (batches_stage_of_ne apart ..).trans (batches_unstage_of_ne apart)

theorem Takes.batches_of_ne {e : Event} {answer : Option Nat}
    (takes : Takes task route e s answer t) (apart : (task, route) ≠ (target, way)) :
    t.batches target way = s.batches target way := by
  cases takes with
  | refuse => rfl
  | cut opens | plain opens =>
    exact (batches_shelved_of_ne apart e).trans (batches_of_staged opens.staged_eq)
  | item opens =>
    exact (batches_updateStaged_of_ne apart (by intro _; exact ⟨rfl, rfl⟩)).trans
      (batches_of_staged opens.staged_eq)

end Transitions

/-! ### Reports about other tasks -/

structure SameLatest (target : String) (way : Nat) (s t : State) : Prop where
  index : t.index? target way = s.index? target way
  entry : ∀ i, s.index? target way = some i → t.sequence[i]? = s.sequence[i]?

theorem SameLatest.refl (s : State) : SameLatest target way s s := ⟨rfl, fun _ _ => rfl⟩

theorem SameLatest.trans (first : SameLatest target way s t) (second : SameLatest target way t u) :
    SameLatest target way s u where
  index := second.index.trans first.index
  entry i latest := (second.entry i (first.index.trans latest)).trans (first.entry i latest)

theorem SameLatest.of_eq (sequence : t.sequence = s.sequence) (tasks : t.tasks = s.tasks) :
    SameLatest target way s t where
  index := by rw [index?, index?, tasks]
  entry i _ := by rw [sequence]

theorem SameLatest.latest_eq (same : SameLatest target way s t) :
    t.latest? target way = s.latest? target way := by
  rw [latest?, latest?, same.index]
  cases latest : s.index? target way with
  | none => rfl
  | some i => exact same.entry i latest

theorem Appends.sameLatest (appends : Appends s t) (indexed : Indexed s.tasks s.places)
    (named : Command.isName target = false) : SameLatest target way s t where
  index := appends.latest target way named
  entry i latest := by
    obtain ⟨entry, there, -⟩ := places_getElem?.mp (indexed.index?_place latest)
    rw [there]
    exact appends.entries i entry there

section Reports

variable {g : Graph} {index : Nat} {e : Event} {old new : Status}

theorem Takes.indexed {answer : Option Nat} (takes : Takes task route e s answer t)
    (indexed : Indexed s.tasks s.places) : Indexed t.tasks t.places := by
  rcases takes.opened with ⟨-, rfl⟩ | ⟨_, opened, -, opens, sequence, tasks⟩
  · exact indexed
  · have indexedThen := opens.indexed indexed
    rw [tasks, places, sequence]
    exact indexedThen

theorem Takes.sameLatest {answer : Option Nat} (takes : Takes task route e s answer t)
    (apart : (task, route) ≠ (target, way)) (indexed : Indexed s.tasks s.places) :
    SameLatest target way s t := by
  rcases takes.opened with ⟨-, rfl⟩ | ⟨_, opened, -, opens, sequence, tasks⟩
  · exact .refl t
  refine SameLatest.trans ?_ (.of_eq sequence tasks)
  rcases opens with ⟨rfl, -⟩ | ⟨-, rfl⟩
  · exact .refl opened
  · constructor
    · refine lookup_putNamed_of_ne _ _ _ fun same => apart ?_
      obtain ⟨rfl, rfl⟩ := taskKey_inj same
      rfl
    · intro i latest
      obtain ⟨entry, there, -⟩ := places_getElem?.mp (indexed.index?_place latest)
      exact List.getElem?_append_left (List.getElem?_eq_some_iff.mp there).1

theorem sameLatest_of_elsewhere (tasks : t.tasks = s.tasks)
    (entries : ∀ i : Nat, i ≠ index → t.sequence[i]? = s.sequence[i]?)
    (indexed : Indexed s.tasks s.places) (about : s.index? task route = some index)
    (apart : (task, route) ≠ (target, way)) : SameLatest target way s t where
  index := by rw [index?, index?, tasks]
  entry i latest := by
    refine entries i fun same => apart ?_
    obtain ⟨rfl, rfl⟩ := indexed.task_eq about (same ▸ latest)
    rfl

theorem Updates.batches_of_command (drawn : g.Drawn) (command : Command.isName task = true)
    (named : Command.isName target = false) : ∀ {depth : Nat} {e : Event} {s t : State},
    Updates g depth task route e s t → t.batches target way = s.batches target way
  | 0, _, _, _, rfl => rfl
  | depth + 1, e, s, t, updates => by
    have apart : (task, route) ≠ (target, way) := by
      intro same
      rw [(Prod.mk.inj same).1, named] at command
      cases command
    rcases updates with takes | ⟨index, taken, takes, rfl | ⟨old, new, turned, turns, updates⟩⟩
    · exact takes.batches_of_ne apart
    · exact takes.batches_of_ne apart
    have last : g.nextTransitions task = [] := drawn.nextTransitions_command command
    obtain ⟨-, ⟨entry, there, -⟩, -⟩ := turns.entryAt
    have reacted {reaction : Reaction} {u : State}
        (reacts : Reacts g task route index old new turned reaction u) :
        u.batches target way = s.batches target way := by
      obtain ⟨left, withdraws, same | ⟨-, some, -⟩⟩ := reacts.batches drawn there target way
      · rw [same, withdraws.batches_of_ne apart, batches_of_staged turns.staged_eq,
          takes.batches_of_ne apart]
      · exact (some last).elim
    rcases updates with reacts | ⟨u, ⟨reacts, again⟩ | ⟨commands, reacts, ensues⟩⟩
    · exact reacted reacts
    · exact (Updates.batches_of_command drawn command named again).trans (reacted reacts)
    · obtain rfl := reacts.commands_eq last
      obtain ⟨_, rfl⟩ := ensues.restates
      exact (batches_of_staged (s := u) rfl).trans (reacted reacts)

theorem Ensues.batches {depth : Nat} {commands : List (Command × Nat)} (drawn : g.Drawn)
    (ensues : Ensues g task route
      (fun next => Updates g depth next.1.name next.2 (.command next.1)) commands s t)
      (named : Command.isName target = false) (way : Nat) :
      t.batches target way = s.batches target way := by
  rcases ensues with rfl | ⟨_, followed, done, follows, -, chained⟩
  · rfl
  · obtain ⟨_, rfl⟩ := follows.restates
    refine chained.keep (fun t => t.batches target way = s.batches target way) ?_ rfl
    intro next middle last same updates
    exact (updates.batches_of_command drawn (Command.isName_name next.1) named).trans same

/-- A report leaves a task as it is that it is not about, unless what it is about is completed by it
and goes on to that task. -/
theorem Updates.spares (drawn : g.Drawn) (named : Command.isName target = false)
    (apart : (task, route) ≠ (target, way)) : ∀ {depth : Nat} {e : Event} {s t : State},
    Indexed s.tasks s.places → Updates g depth task route e s t → SameLatest target way s t ∧
      (t.batches target way = s.batches target way ∨ Refreshed target way s t ∧
        Completes s t target)
  | 0, _, s, _, _, rfl => ⟨.refl s, .inl rfl⟩
  | depth + 1, e, s, t, indexed, updates => by
    rcases updates with takes | ⟨index, taken, takes, updates⟩
    · exact ⟨takes.sameLatest apart indexed, .inl (takes.batches_of_ne apart)⟩
    have sameTaken : SameLatest target way s taken := takes.sameLatest apart indexed
    have indexedTaken := takes.indexed indexed
    have staged := takes.batches_of_ne apart
    obtain ⟨about, kept⟩ := takes.latest
    rcases updates with rfl | ⟨old, new, turned, turns, updates⟩
    · exact ⟨sameTaken, .inl staged⟩
    obtain ⟨-, ⟨after, atAfter, -⟩, -⟩ := turns.entryAt
    have reacted {reaction : Reaction} {u : State}
        (reacts : Reacts g task route index old new turned reaction u) :
        SameLatest target way s u ∧ Indexed u.tasks u.places ∧
          (u.batches target way = s.batches target way ∨ Refreshed target way s u ∧
            Completes s u target) := by
      have tasks : u.tasks = taken.tasks := reacts.renoted.tasks.trans turns.tasks_eq
      have same : SameLatest target way taken u := by
        refine sameLatest_of_elsewhere tasks (fun i elsewhere => ?_) indexedTaken about apart
        rw [reacts.renoted.getElem?_of_ne elsewhere, turns.getElem?_of_ne elsewhere]
      have placed : u.places = taken.places := by
        rw [reacts.renoted.places_eq]
        cases turns
        exact places_updateEntry (by intro _; rfl) taken index
      refine ⟨sameTaken.trans same, by rw [tasks, placed]; exact indexedTaken, ?_⟩
      obtain ⟨left, withdraws, same | ⟨refreshed, -, completed, changed, entry, there, went⟩⟩ :=
        reacts.batches drawn atAfter target way
      · rw [same, withdraws.batches_of_ne apart, batches_of_staged turns.staged_eq, staged]
        exact .inl rfl
      · have leftSame : left.batches target way = s.batches target way := by
          rw [withdraws.batches_of_ne apart, batches_of_staged turns.staged_eq, staged]
        obtain ⟨ended, fresh⟩ := reacts.completed_now turns completed changed
        refine .inr ⟨refreshed.after_eq leftSame, index, entry, there, ended entry there,
          fun known found => ?_, went⟩
        exact fresh known (kept index known found)
    rcases updates with reacts | ⟨u, ⟨reacts, again⟩ | ⟨commands, reacts, ensues⟩⟩
    · exact ⟨(reacted reacts).1, (reacted reacts).2.2⟩
    · obtain ⟨sameNow, indexedNow, -⟩ := reacted reacts
      have stagedNow : u.batches target way = s.batches target way := by
        cases reacts with
        | again completed leaves =>
          have withdraws : Withdraws task route new turned .again u := .leave completed leaves
          rw [withdraws.batches_of_ne apart, batches_of_staged turns.staged_eq, staged]
      obtain ⟨sameLast, stagedLast⟩ := Updates.spares drawn named apart indexedNow again
      refine ⟨sameNow.trans sameLast, ?_⟩
      rcases stagedLast with stagedLast | ⟨refreshed, place, entry, there, completed, fresh, went⟩
      · exact .inl (stagedLast.trans stagedNow)
      · refine .inr ⟨refreshed.after_eq stagedNow, place, entry, there, completed,
          fun known found => ?_, went⟩
        exact reacts.fresh_of_again turns fresh (kept place known found)
    · obtain ⟨sameNow, indexedNow, stagedNow⟩ := reacted reacts
      have appends := (ensues.command drawn).1
      have same := ensues.batches drawn named way
      refine ⟨sameNow.trans (appends.sameLatest indexedNow named), ?_⟩
      rcases stagedNow with stagedNow | ⟨refreshed, place, entry, there, completed, fresh, went⟩
      · exact .inl (same.trans stagedNow)
      · exact .inr ⟨refreshed.of_eq same, place, entry, appends.entries place entry there,
          completed, fresh, went⟩

end Reports

end State

end Orchestration
