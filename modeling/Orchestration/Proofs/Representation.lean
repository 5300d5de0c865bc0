import Orchestration.Expression.Engine
import Orchestration.Proofs.Operation

/-!
How the state of a workflow represents what has been started and what is to be started.

Whatever a host asks, and whether it succeeds or fails, the parts of the state stay in step: the
index by task and route, the contexts that tasks read, the links to what came before, and the
routes. So no look-up in the state ever fails.
-/

namespace Orchestration

structure Holder where
  route : Nat
  contexts : List Nat
  prev : List (String × Nat)

theorem Contexts.get_eq_ok {c : Contexts} {i : Nat} (below : i < c.items.length) :
    ∃ context, c.get i = .ok context := by
  refine ⟨c.items[i], ?_⟩
  rw [Contexts.get, List.getElem?_eq_getElem below]

namespace State

def holders (s : State) : List Holder :=
  s.sequence.map (fun e => ⟨e.route, e.contexts.value, e.prev.value⟩) ++
    s.staged.map fun t => ⟨t.route, t.contexts.value, t.prev.value⟩

/-- The parts of a state are in step. -/
structure Represents (s : State) : Prop where
  /-- The index has a task on a route if it has been started, and leads to its last entry. -/
  indexed : ∀ key index, s.tasks.lookup key = some index ↔
    ∃ task route, key = taskKey task route ∧ s.places[index]? = some (task, route) ∧
      ∀ j, s.places[j]? = some (task, route) → j ≤ index
  once : (s.tasks.map (·.1)).Nodup
  reads : ∀ h ∈ s.holders, h.contexts.head? = some 0 ∧ h.contexts.count 0 = 1 ∧
    ∀ i ∈ h.contexts, i < s.contexts.items.length
  published : ∀ e ∈ s.sequence, ∀ link ∈ e.out, link.2 < s.contexts.items.length
  /-- A link leads to an entry, under the name of a transition that leaves the task of the entry. -/
  links : ∀ h ∈ s.holders, ∀ link ∈ h.prev, ∃ e key, s.sequence[link.2]? = some e ∧
    link.1 = transitionKey e.task key
  onRoutes : ∀ h ∈ s.holders, h.route < s.routes.length
  root : s.routes[0]? = some []
  /-- Each later route is an earlier one with one transition more, which is not in the earlier
  one. -/
  branches : ∀ i route, s.routes[i + 1]? = some route →
    ∃ j ≤ i, ∃ old new, s.routes[j]? = some old ∧ new ∉ old ∧ route = old ++ [new]

/-- What the parts of a state point to is found. -/
structure Resolves (s : State) : Prop where
  latest : ∀ task route index, s.index? task route = some index → ∃ e, s.latest? task route = some e
  withoutFirst : ∀ h ∈ s.holders, ∃ others, Conductor.withoutFirst h.contexts = .ok others
  contexts : ∀ h ∈ s.holders, ∀ i ∈ h.contexts, ∃ context, s.contexts.get i = .ok context
  published : ∀ e ∈ s.sequence, ∀ link ∈ e.out, ∃ context, s.contexts.get link.2 = .ok context
  links : ∀ h ∈ s.holders, ∀ link ∈ h.prev, ∃ e, s.sequence[link.2]? = some e
  routes : ∀ h ∈ s.holders, ∃ route, s.routes[h.route]? = some route

variable {s : State}

theorem Grounded.held (grounded : s.Grounded) : ∀ h ∈ s.holders,
    h.route < s.routes.length ∧ Readable s.contexts.items.length h.contexts ∧
    ∀ link ∈ h.prev, LeadsBack s.places link := by
  intro h mem
  rcases List.mem_append.mp mem with started | waiting
  · obtain ⟨e, inSequence, rfl⟩ := List.mem_map.mp started
    have held := (grounded.entries e inSequence).held
    exact ⟨held.route, held.reads, held.links⟩
  · obtain ⟨t, inStaged, rfl⟩ := List.mem_map.mp waiting
    have held := (grounded.staged t inStaged).held
    exact ⟨held.route, held.reads, held.links⟩

theorem Grounded.represents (grounded : s.Grounded) : s.Represents where
  indexed := grounded.indexed
  once := grounded.named
  reads := fun h mem =>
    have reads := (grounded.held h mem).2.1
    ⟨reads.first, reads.once, reads.below⟩
  published := fun e mem => (grounded.entries e mem).out
  links := by
    intro h mem link inPrev
    obtain ⟨task, route, key, there, named⟩ := (grounded.held h mem).2.2 link inPrev
    obtain ⟨e, found, rfl, -⟩ := places_getElem?.mp there
    exact ⟨e, key, found, named⟩
  onRoutes := fun h mem => (grounded.held h mem).1
  root := grounded.branching.root
  branches := grounded.branching.branch

theorem Represents.resolves (represents : s.Represents) : s.Resolves where
  latest := by
    intro task route index found
    obtain ⟨_, _, _, there, -⟩ := (represents.indexed _ _).mp found
    obtain ⟨e, here, -⟩ := places_getElem?.mp there
    refine ⟨e, ?_⟩
    rw [latest?, found]
    exact here
  withoutFirst := by
    intro h mem
    have first : 0 ∈ h.contexts := List.mem_of_mem_head? (represents.reads h mem).1
    exact ⟨h.contexts.erase 0, by simp [Conductor.withoutFirst, first]⟩
  contexts := fun h mem i inContexts =>
    Contexts.get_eq_ok ((represents.reads h mem).2.2 i inContexts)
  published := fun e mem link inOut => Contexts.get_eq_ok (represents.published e mem link inOut)
  links := by
    intro h mem link inPrev
    obtain ⟨e, -, found, -⟩ := represents.links h mem link inPrev
    exact ⟨e, found⟩
  routes := fun h mem => ⟨_, List.getElem?_eq_getElem (represents.onRoutes h mem)⟩

end State

namespace Conductor

/-- After any operations on a fresh conductor, the parts of its state are in step, and all look-ups
succeed. -/
theorem represents_afterAll [Engine] {spec : Spec} {parent input : Value} {c : Conductor}
    (made : make spec parent input = .ok c) (rendered : c.errors = []) (ops : List Operation) :
    (c.afterAll ops).state.Represents ∧ (c.afterAll ops).state.Resolves := by
  have represents := (grounded_afterAll (grounded_make made rendered) ops).represents
  exact ⟨represents, represents.resolves⟩

/-- The second task fails after the conductor has been reloaded, and is run again. -/
def sampleOperations : List Operation :=
  [.request .running, .next, .update "first" 0 Sample.started,
    .update "first" 0 Sample.succeeded, .reload, .update "second" 0 Sample.started,
    .update "second" 0 Sample.failed, .rerun [⟨.str "second", .int 0, false⟩],
   .update "second" 0 Sample.started, .render]

theorem represents_afterAll_sample : ∃ spec c, Spec.make .workflow Sample.workflow = .ok spec ∧
    make spec .null .null = .ok c ∧ c.errors = [] ∧
    (c.afterAll sampleOperations).state.sequence.map (fun e => (e.task, e.status)) =
      [("first", .succeeded), ("second", .failed), ("second", .running)] ∧
    (c.afterAll sampleOperations).state.Represents ∧
    (c.afterAll sampleOperations).state.Resolves := by
  obtain ⟨spec, c, specified, made, checked⟩ := exists_make_of_any (p := fun _ c =>
    c.errors.isEmpty && (c.afterAll sampleOperations).state.sequence.map
      (fun e => (e.task, e.status)) ==
      [("first", .succeeded), ("second", .failed), ("second", .running)])
    (show (Spec.make .workflow Sample.workflow).toOption.any _ = true by decide +kernel)
  simp only [Bool.and_eq_true, List.isEmpty_iff, beq_iff_eq] at checked
  obtain ⟨rendered, entries⟩ := checked
  exact ⟨spec, c, specified, made, rendered, entries,
    represents_afterAll made rendered sampleOperations⟩

end Conductor

end Orchestration
