import Orchestration.Proofs.Grounding
import Orchestration.Proofs.Machine
import Orchestration.State.Progress

/-!
The moves by which the state of a workflow changes.

Whatever a conductor does to a state it does by small moves, and every move of a grounded state
leads to a grounded one. The quiet moves leave alone which tasks there are, how far they have come,
what is staged and on which routes: they concern contexts, links and what is shared.
-/

namespace Orchestration

/-- A change of what is staged that leaves alone for whom it is staged and what it holds. -/
structure Staged.Restages (f : Staged → Staged) : Prop where
  task : ∀ t, (f t).task = t.task
  route : ∀ t, (f t).route = t.route
  contexts : ∀ t, (f t).contexts = t.contexts
  prev : ∀ t, (f t).prev = t.prev
  retry : ∀ t, (f t).retry = t.retry
  items : ∀ t, (∀ items ∈ t.items, ∀ status ∈ items, status.IsWord) →
    ∀ items ∈ (f t).items, ∀ status ∈ items, status.IsWord

namespace State

inductive Quiet : State → State → Prop where
  | gather (s : State) (indices : List Nat) :
      Quiet s { s with contexts := (s.contexts.gather indices).1 }
  | gatherMore (s : State) (entries : List (Value × Node)) (indices : List Nat) :
      Node.EveryEntry s.contexts.Inner entries →
      Quiet s { s with contexts := (s.contexts.gatherMore entries indices).1 }
  | publish (s : State) (entries : List (Value × Node)) :
      Quiet s { s with contexts := s.contexts.publish entries }
  | out (s : State) (index : Nat) (key : String) (new : Nat) :
      new < s.contexts.items.length →
      Quiet s (s.updateEntry index fun e => { e with out := [(key, new)] })
  | read (s : State) (mark : Nat) (more : List Nat) :
      0 ∉ more → (∀ i ∈ more, i < s.contexts.items.length) →
      Quiet s (s.changeContexts mark (· ++ more))
  | link (s : State) (mark index : Nat) (task : String) (route : Nat) (key : Value) :
      s.places[index]? = some (task, route) →
      Quiet s (s.changePrev mark (putNamed · (transitionKey task key) index))
  | account (s : State) (mark : Nat) (f : Value → Value) : Quiet s (s.changeRetry mark f)
  | share (s : State) : Quiet s { s with nextMark := s.nextMark + 1 }

inductive Move : State → State → Prop where
  | quiet {s t : State} : Quiet s t → Move s t
  | branch (s : State) (route : Nat) (old : List String) (here : String) :
      s.routes[route]? = some old → here ∉ old →
      Move s { s with routes := s.routes ++ [old ++ [here]] }
  | become (s : State) (signal : Signal) (new : Status) :
      Machine.Workflow.step s.status signal = .ok (some new) → Move s { s with status := new }
  | fail (s : State) (signal : Signal) (led : Status) :
      Machine.Workflow.step s.status signal = .ok (some led) → led.isCompleted = true →
      Move s { s with status := .failed }
  | advance (s : State) (index : Nat) (entry : Entry) (signal : Signal) (new : Status) :
      s.sequence[index]? = some entry → Machine.Task.step entry.status signal = .ok (some new) →
      Move s (s.updateEntry index fun e => { e with status := new })
  | note (s : State) (index : Nat) (key : String) (taken : Bool) :
      Move s (s.updateEntry index fun e => { e with next := putNamed e.next key taken })
  | close (s : State) (index : Nat) (terminal : Bool) :
      Move s (s.updateEntry index fun e => { e with terminal := terminal })
  | add (s : State) (task : String) (route : Nat) (contexts : Shared (List Nat))
      (prev : Shared (List (String × Nat))) (retry : Option (Shared Value)) :
      s.Held route contexts prev retry →
      Move s (s.addEntry ⟨task, route, contexts, [], prev, [], retry, .missing, false⟩)
  | stage (s : State) (task : String) (route : Nat) (contexts : Shared (List Nat))
      (prev : Shared (List (String × Nat))) (ready : Bool) (retry : Option (Shared Value)) :
      s.Held route contexts prev retry → Move s (s.stage task route contexts prev ready retry)
  | unstage (s : State) (task : String) (route : Nat) : Move s (s.unstage task route)
  | restage (s : State) (task : String) (route : Nat) (f : Staged → Staged) :
      Staged.Restages f → Move s (s.updateStaged task route f)
  | rerun (s : State) (indices : List Nat) : Move s { s with reruns := s.reruns ++ [indices] }

variable {s t : State}

/-! ### What moves leave where it is -/

theorem mem_modify {α : Type} {list : List α} {index : Nat} {f : α → α} {a : α}
    (mem : a ∈ list.modify index f) : ∃ b ∈ list, a = b ∨ (list[index]? = some b ∧ a = f b) := by
  obtain ⟨i, found⟩ := List.getElem?_of_mem mem
  rw [List.getElem?_modify] at found
  obtain ⟨b, there, changed⟩ := Option.map_eq_some_iff.mp found
  refine ⟨b, List.mem_of_getElem? there, ?_⟩
  split at changed
  case isTrue same => exact .inr ⟨same ▸ there, changed.symm⟩
  case isFalse => exact .inl changed.symm

theorem map_modify {α β : Type} {view : α → β} {f : α → α} {g : β → β}
    (same : ∀ a, view (f a) = g (view a)) (list : List α) (index : Nat) :
    (list.modify index f).map view = (list.map view).modify index g := by
  refine List.ext_getElem? fun i => ?_
  simp only [List.getElem?_map, List.getElem?_modify]
  cases list[i]? with
  | none => rfl
  | some a =>
    simp only [Option.map_eq_map, Option.map_some, Option.some.injEq]
    split
    · exact same a
    · rfl

theorem places_updateEntry {f : Entry → Entry} (same : ∀ e, (f e).place = e.place) (s : State)
    (index : Nat) : (s.updateEntry index f).places = s.places :=
  (map_modify (g := id) same s.sequence index).trans (List.modify_id ..)

theorem places_changeContexts (s : State) (mark : Nat) (f : List Nat → List Nat) :
    (s.changeContexts mark f).places = s.places := by
  simp only [places, changeContexts, List.map_map]
  rfl

theorem places_changePrev (s : State) (mark : Nat) (f : List (String × Nat) → List (String × Nat)) :
    (s.changePrev mark f).places = s.places := by
  simp only [places, changePrev, List.map_map]
  rfl

theorem places_changeRetry (s : State) (mark : Nat) (f : Value → Value) :
    (s.changeRetry mark f).places = s.places := by
  simp only [places, changeRetry, List.map_map]
  rfl

theorem places_addEntry (s : State) (e : Entry) :
    (s.addEntry e).places = s.places ++ [e.place] := by
  simp [places, addEntry]

theorem length_places (s : State) : s.places.length = s.sequence.length := List.length_map ..

theorem mem_unstage {x : Staged} {task : String} {route : Nat}
    (mem : x ∈ (s.unstage task route).staged) : x ∈ s.staged := by
  unfold unstage at mem
  split at mem
  · split at mem
    · exact mem
    · exact List.mem_of_mem_eraseP mem
  · exact mem

theorem unstage_eq (s : State) (task : String) (route : Nat) :
    s.unstage task route = { s with staged := (s.unstage task route).staged } := by
  unfold unstage
  split
  · split <;> rfl
  · rfl

/-! ### Growth -/

theorem Grows.of_places (contexts : s.contexts.items.length ≤ t.contexts.items.length)
    (routes : s.routes <+: t.routes) (places : t.places = s.places)
    (marks : s.nextMark ≤ t.nextMark) : Grows s t :=
  ⟨contexts, routes, places ▸ List.prefix_refl _, marks⟩

theorem Grows.updateEntry {f : Entry → Entry} (same : ∀ e, (f e).place = e.place) (s : State)
    (index : Nat) : Grows s (s.updateEntry index f) :=
  .of_places (Nat.le_refl _) (List.prefix_refl _) (places_updateEntry same s index) (Nat.le_refl _)

theorem Quiet.places_eq (quiet : Quiet s t) : t.places = s.places := by
  cases quiet with
  | gather | gatherMore | publish | share => rfl
  | out index => exact places_updateEntry (by intro _; rfl) s index
  | read mark more => exact places_changeContexts s mark _
  | link mark => exact places_changePrev s mark _
  | account mark f => exact places_changeRetry s mark f

theorem Quiet.grows (quiet : Quiet s t) : Grows s t := by
  have places := quiet.places_eq
  cases quiet with
  | gather indices =>
    exact .of_places (Nat.le_of_eq (Contexts.length_gather ..).symm) (List.prefix_refl _) places
      (Nat.le_refl _)
  | gatherMore entries indices =>
    exact .of_places (Nat.le_of_eq (Contexts.length_gatherMore ..).symm) (List.prefix_refl _) places
      (Nat.le_refl _)
  | publish entries =>
    refine .of_places ?_ (List.prefix_refl _) places (Nat.le_refl _)
    simp [Contexts.publish]
  | share => exact .of_places (Nat.le_refl _) (List.prefix_refl _) places (Nat.le_succ _)
  | out | read | link | account =>
    exact .of_places (Nat.le_refl _) (List.prefix_refl _) places (Nat.le_refl _)

theorem Move.grows (move : Move s t) : Grows s t := by
  cases move with
  | quiet quiet => exact quiet.grows
  | branch => exact .of_places (Nat.le_refl _) (List.prefix_append ..) rfl (Nat.le_refl _)
  | become | fail | stage | rerun | restage =>
    exact ⟨Nat.le_refl _, List.prefix_refl _, List.prefix_refl _, Nat.le_refl _⟩
  | advance | note | close => exact Grows.updateEntry (by intro _; rfl) s _
  | add =>
    exact ⟨Nat.le_refl _, List.prefix_refl _,
      places_addEntry s _ ▸ List.prefix_append .., Nat.le_refl _⟩
  | unstage task route =>
    rw [unstage_eq]
    exact ⟨Nat.le_refl _, List.prefix_refl _, List.prefix_refl _, Nat.le_refl _⟩

/-! ### Moves of a grounded state -/

theorem Grounded.keep (grounded : s.Grounded) (grows : Grows s t) (places : t.places = s.places)
    (tasks : t.tasks = s.tasks) (branching : Branching t.routes) (marked : t.contexts.Marked)
    (status : t.status.IsWord) (entries : ∀ e ∈ t.sequence, t.SoundEntry e)
    (staged : ∀ x ∈ t.staged, t.SoundStaged x) : t.Grounded where
  indexed := by
    rw [places, tasks]
    exact grounded.indexed
  named := tasks ▸ grounded.named
  entries := entries
  staged := staged
  branching := branching
  marked := marked
  positive := Nat.lt_of_lt_of_le grounded.positive grows.marks
  status := status

theorem Grounded.setStatus (grounded : s.Grounded) {status : Status} (word : status.IsWord) :
    { s with status := status }.Grounded := by
  have grows : Grows s { s with status := status } :=
    ⟨Nat.le_refl _, List.prefix_refl _, List.prefix_refl _, Nat.le_refl _⟩
  exact grounded.keep grows rfl rfl grounded.branching grounded.marked word
    (fun e held => (grounded.entries e held).grow grows)
    (fun x held => (grounded.staged x held).grow grows)

theorem Grounded.updateEntry {f : Entry → Entry} {index : Nat} (grounded : s.Grounded)
    (same : ∀ e, (f e).place = e.place)
    (sound : ∀ e, s.SoundEntry e → (s.updateEntry index f).SoundEntry (f e)) :
    (s.updateEntry index f).Grounded := by
  have grows : Grows s (s.updateEntry index f) := .updateEntry same s index
  refine grounded.keep grows (places_updateEntry same s index) rfl grounded.branching
    grounded.marked grounded.status ?_ ?_
  · intro e mem
    obtain ⟨old, held, rfl | ⟨-, rfl⟩⟩ := mem_modify mem
    · exact (grounded.entries e held).grow grows
    · exact sound old (grounded.entries old held)
  · intro x mem
    exact (grounded.staged x mem).grow grows

/-- What is under a mark is changed wherever it is held. -/
theorem Held.read {route mark : Nat} {more : List Nat} {contexts : Shared (List Nat)}
    {prev : Shared (List (String × Nat))} {retry : Option (Shared Value)}
    (held : s.Held route contexts prev retry) (positive : 0 ∉ more)
    (below : ∀ i ∈ more, i < s.contexts.items.length) :
    s.Held route (contexts.changeAt mark (· ++ more)) prev retry := by
  unfold Shared.changeAt
  split
  · exact { held with reads := held.reads.append positive below }
  · exact held

theorem Held.link {route mark index way : Nat} {task : String} {key : Value}
    {contexts : Shared (List Nat)} {prev : Shared (List (String × Nat))}
    {retry : Option (Shared Value)} (held : s.Held route contexts prev retry)
    (found : s.places[index]? = some (task, way)) :
    s.Held route contexts
      (prev.changeAt mark (putNamed · (transitionKey task key) index)) retry := by
  unfold Shared.changeAt
  split
  · refine { held with links := ?_, named := nodup_putNamed _ _ _ held.named }
    intro link mem
    rcases mem_putNamed mem with rfl | old
    · exact ⟨task, way, key, found, rfl⟩
    · exact held.links link old
  · exact held

theorem Held.account {route mark : Nat} {f : Value → Value} {contexts : Shared (List Nat)}
    {prev : Shared (List (String × Nat))} {retry : Option (Shared Value)}
    (held : s.Held route contexts prev retry) :
    s.Held route contexts prev (retry.map (·.changeAt mark f)) := by
  refine { held with retryMark := ?_ }
  intro shared mem
  obtain ⟨old, before, rfl⟩ := Option.map_eq_some_iff.mp mem
  have taken := held.retryMark old before
  unfold Shared.changeAt
  split <;> exact taken

/-- What entries and staged tasks hold may change, as long as it stays sound. -/
theorem Grounded.rehold {f : Entry → Entry} {h : Staged → Staged} (grounded : s.Grounded)
    (changed : t = { s with sequence := s.sequence.map f, staged := s.staged.map h })
    (grows : Grows s t) (places : t.places = s.places)
    (entry : ∀ e, t.SoundEntry e → t.SoundEntry (f e))
    (staged : ∀ x, t.SoundStaged x → t.SoundStaged (h x)) : t.Grounded := by
  subst changed
  refine grounded.keep grows places rfl grounded.branching grounded.marked grounded.status ?_ ?_
  · intro e mem
    obtain ⟨old, held, rfl⟩ := List.mem_map.mp mem
    exact entry old ((grounded.entries old held).grow grows)
  · intro x mem
    obtain ⟨old, held, rfl⟩ := List.mem_map.mp mem
    exact staged old ((grounded.staged old held).grow grows)

theorem Quiet.grounded (quiet : Quiet s t) (grounded : s.Grounded) : t.Grounded := by
  have grows := quiet.grows
  have places := quiet.places_eq
  have entries : ∀ e ∈ s.sequence, t.SoundEntry e :=
    fun e held => (grounded.entries e held).grow grows
  have staged : ∀ x ∈ s.staged, t.SoundStaged x := fun x held => (grounded.staged x held).grow grows
  cases quiet with
  | gather indices =>
    exact grounded.keep grows places rfl grounded.branching (grounded.marked.gather indices).1
      grounded.status entries staged
  | gatherMore before indices inner =>
    exact grounded.keep grows places rfl grounded.branching
      (grounded.marked.gatherMore indices inner).1 grounded.status entries staged
  | publish published =>
    exact grounded.keep grows places rfl grounded.branching (grounded.marked.publish published)
      grounded.status entries staged
  | share =>
    exact grounded.keep grows places rfl grounded.branching grounded.marked
      grounded.status entries staged
  | out index key new below =>
    refine grounded.updateEntry (by intro _; rfl) fun e sound => ?_
    refine { sound.grow grows with out := ?_, outNamed := by simp }
    intro link mem
    rw [List.mem_singleton.mp mem]
    exact below
  | read mark more positive below =>
    exact grounded.rehold rfl grows places
      (fun _ sound => { sound with held := sound.held.read positive below })
      fun _ sound => { sound with held := sound.held.read positive below }
  | link mark index task way key found =>
    rw [← places] at found
    exact grounded.rehold rfl grows places
      (fun _ sound => { sound with held := sound.held.link found })
      fun _ sound => { sound with held := sound.held.link found }
  | account mark f =>
    exact grounded.rehold rfl grows places
      (fun _ sound => { sound with held := sound.held.account })
      fun _ sound => { sound with held := sound.held.account }

theorem Move.grounded (move : Move s t) (grounded : s.Grounded) : t.Grounded := by
  have grows := move.grows
  have staged : ∀ x ∈ s.staged, t.SoundStaged x := fun x held => (grounded.staged x held).grow grows
  have entries : ∀ e ∈ s.sequence, t.SoundEntry e :=
    fun e held => (grounded.entries e held).grow grows
  cases move with
  | quiet quiet => exact quiet.grounded grounded
  | branch route old here found new =>
    exact grounded.keep grows rfl rfl (grounded.branching.add found new) grounded.marked
      grounded.status entries staged
  | become signal new led => exact grounded.setStatus (.inr (Machine.Workflow.isKnown_of_step led))
  | fail => exact grounded.setStatus (.inr rfl)
  | rerun =>
    exact grounded.keep grows rfl rfl grounded.branching grounded.marked
      grounded.status entries staged
  | advance index entry signal new found led =>
    refine grounded.updateEntry (by intro _; rfl) fun e sound => ?_
    exact { sound.grow grows with status := .inr (Machine.Task.isKnown_of_step led) }
  | note index key taken =>
    refine grounded.updateEntry (by intro _; rfl) fun e sound => ?_
    exact { sound.grow grows with nextNamed := nodup_putNamed _ _ _ sound.nextNamed }
  | close index terminal =>
    refine grounded.updateEntry (by intro _; rfl) fun e sound => ?_
    exact { sound.grow grows with }
  | add task route contexts prev retry held =>
    exact
      { indexed := by
          rw [places_addEntry]
          have added := grounded.indexed.add task route
          rw [length_places] at added
          exact added
        named := nodup_putNamed _ _ _ grounded.named
        entries := by
          intro e mem
          rcases List.mem_append.mp mem with old | new
          · exact entries e old
          · rw [List.mem_singleton.mp new]
            exact ⟨held.grow grows, by simp, by simp, by simp, .inl rfl⟩
        staged := staged
        branching := grounded.branching
        marked := grounded.marked
        positive := grounded.positive
        status := grounded.status }
  | stage task route contexts prev ready retry held =>
    refine grounded.keep grows rfl rfl grounded.branching grounded.marked grounded.status entries ?_
    intro x mem
    rcases List.mem_append.mp mem with old | new
    · exact staged x old
    · rw [List.mem_singleton.mp new]
      exact ⟨held.grow grows, by simp⟩
  | unstage task route =>
    have kept : ∀ x ∈ (s.unstage task route).staged, (s.unstage task route).SoundStaged x :=
      fun x mem => staged x (mem_unstage mem)
    rw [unstage_eq] at grows entries kept ⊢
    exact grounded.keep grows rfl rfl grounded.branching grounded.marked
      grounded.status entries kept
  | restage task route f restages =>
    refine grounded.keep grows rfl rfl grounded.branching grounded.marked grounded.status entries ?_
    intro x mem
    obtain ⟨old, held, rfl | ⟨-, rfl⟩⟩ := mem_modify mem
    · exact staged x held
    · have sound := staged old held
      refine ⟨?_, restages.items old sound.items⟩
      rw [restages.route, restages.contexts, restages.prev, restages.retry]
      exact sound.held

/-! ### Retries -/

def Unaccounted (s : State) (index : Nat) : Prop :=
  ∃ e, s.sequence[index]? = some e ∧ e.retry = none

/-- Moves never give an account of retries to an entry that has none. -/
theorem Move.unaccounted {index : Nat} (move : Move s t) (unaccounted : s.Unaccounted index) :
    t.Unaccounted index := by
  obtain ⟨e, found, none⟩ := unaccounted
  have updated (i : Nat) {f : Entry → Entry} (same : ∀ e, (f e).retry = e.retry) :
      (s.updateEntry i f).Unaccounted index := by
    by_cases here : i = index
    case pos =>
      subst here
      exact ⟨f e, by rw [updateEntry, List.getElem?_modify_eq, found]; rfl, (same e).trans none⟩
    case neg => exact ⟨e, by rw [updateEntry, List.getElem?_modify_ne _ _ here, found], none⟩
  have mapped {f : Entry → Entry} (same : (f e).retry = Option.none) :
      ∃ e, (s.sequence.map f)[index]? = some e ∧ e.retry = Option.none :=
    ⟨f e, by rw [List.getElem?_map, found]; rfl, same⟩
  cases move with
  | quiet quiet =>
    cases quiet with
    | gather | gatherMore | publish | share => exact ⟨e, found, none⟩
    | out i => exact updated i (by intro _; rfl)
    | read | link => exact mapped none
    | account => exact mapped (by rw [none]; rfl)
  | branch | become | fail | stage | restage | rerun => exact ⟨e, found, none⟩
  | unstage =>
    rw [unstage_eq]
    exact ⟨e, found, none⟩
  | advance i | note i | close i => exact updated i (by intro _; rfl)
  | add => exact ⟨e, List.getElem?_append_left (List.getElem?_eq_some_iff.mp found).1 ▸ found, none⟩

end State

end Orchestration
