import Mathlib.Data.List.Infix
import Mathlib.Data.Nat.Find
import Orchestration.Proofs.Marks
import Orchestration.Proofs.Naming
import Orchestration.State.Basic

/-!
When the state of a workflow is grounded: everything that it points to is there.

A state holds indices of contexts, of entries and of routes. It is grounded if all of them lead to
something, if the index by task and route leads to the last entry for each of them, and if each
route but the first branches off from an earlier one.
-/

namespace Orchestration

/-- Indices of contexts as a task reads them: that of the workflow comes first, and only once. -/
structure Readable (count : Nat) (indices : List Nat) : Prop where
  first : indices.head? = some 0
  once : indices.count 0 = 1
  below : ∀ i ∈ indices, i < count

namespace Readable

variable {count later : Nat} {indices more : List Nat}

theorem initial (positive : 0 < count) : Readable count [0] :=
  ⟨rfl, rfl, fun i mem => by rwa [List.mem_singleton.mp mem]⟩

theorem mono (readable : Readable count indices) (grown : count ≤ later) : Readable later indices :=
  ⟨readable.first, readable.once, fun i mem => Nat.lt_of_lt_of_le (readable.below i mem) grown⟩

theorem append (readable : Readable count indices) (positive : 0 ∉ more)
    (below : ∀ i ∈ more, i < count) : Readable count (indices ++ more) := by
  refine ⟨by rw [List.head?_append, readable.first, Option.some_or], ?_, ?_⟩
  · rw [List.count_append, readable.once, List.count_eq_zero.mpr positive]
  · intro i mem
    rcases List.mem_append.mp mem with left | right
    · exact readable.below i left
    · exact below i right

theorem zero_mem (readable : Readable count indices) : 0 ∈ indices :=
  List.count_pos_iff.mp (by rw [readable.once]; exact Nat.one_pos)

theorem positive (readable : Readable count indices) : 0 < count :=
  readable.below 0 readable.zero_mem

theorem isEmpty_eq_false (readable : Readable count indices) : indices.isEmpty = false := by
  cases indices with
  | nil => cases readable.first
  | cons => rfl

theorem zero_notMem_erase (readable : Readable count indices) : 0 ∉ indices.erase 0 := by
  intro mem
  have counted := List.count_pos_iff.mpr mem
  rw [List.count_erase_self, readable.once] at counted
  exact Nat.lt_irrefl 0 counted

end Readable

/-- Whether a status is one of the known ones, or none at all. -/
def Status.IsWord (s : Status) : Prop := s = .missing ∨ s.isKnown = true

namespace Entry

def place (e : Entry) : String × Nat := (e.task, e.route)

end Entry

namespace State

def places (s : State) : List (String × Nat) := s.sequence.map Entry.place

def IsLast (places : List (String × Nat)) (task : String) (route index : Nat) : Prop :=
  places[index]? = some (task, route) ∧ ∀ j, places[j]? = some (task, route) → j ≤ index

/-- The index by task and route leads to the last entry of each, and to nothing else. -/
def Indexed (tasks : List (String × Nat)) (places : List (String × Nat)) : Prop :=
  ∀ key index, tasks.lookup key = some index ↔
    ∃ task route, key = taskKey task route ∧ IsLast places task route index

/-- A link leads back to an entry, under the name of a transition that leaves its task. -/
def LeadsBack (places : List (String × Nat)) (link : String × Nat) : Prop :=
  ∃ task route key, places[link.2]? = some (task, route) ∧ link.1 = transitionKey task key

/-- Every route but the first is an earlier one with a transition that is not in it. -/
structure Branching (routes : List (List String)) : Prop where
  root : routes[0]? = some []
  branch : ∀ i route, routes[i + 1]? = some route →
    ∃ j ≤ i, ∃ old new, routes[j]? = some old ∧ new ∉ old ∧ route = old ++ [new]

structure Held (s : State) (route : Nat) (contexts : Shared (List Nat))
    (prev : Shared (List (String × Nat))) (retry : Option (Shared Value)) : Prop where
  route : route < s.routes.length
  reads : Readable s.contexts.items.length contexts.value
  links : ∀ link ∈ prev.value, LeadsBack s.places link
  named : (prev.value.map (·.1)).Nodup
  contextsMark : Contexts.Taken s.nextMark contexts.mark
  prevMark : Contexts.Taken s.nextMark prev.mark
  retryMark : ∀ shared ∈ retry, Contexts.Taken s.nextMark shared.mark

structure SoundEntry (s : State) (e : Entry) : Prop where
  held : s.Held e.route e.contexts e.prev e.retry
  out : ∀ link ∈ e.out, link.2 < s.contexts.items.length
  outNamed : (e.out.map (·.1)).Nodup
  nextNamed : (e.next.map (·.1)).Nodup
  status : e.status.IsWord

structure SoundStaged (s : State) (t : Staged) : Prop where
  held : s.Held t.route t.contexts t.prev t.retry
  items : ∀ items ∈ t.items, ∀ status ∈ items, status.IsWord

structure Sound (s : State) : Prop where
  named : (s.tasks.map (·.1)).Nodup
  entries : ∀ e ∈ s.sequence, s.SoundEntry e
  staged : ∀ t ∈ s.staged, s.SoundStaged t
  status : s.status.IsWord

structure Grounded (s : State) : Prop extends s.Sound where
  indexed : Indexed s.tasks s.places
  branching : Branching s.routes
  marked : s.contexts.Marked
  positive : 0 < s.nextMark

/-! ### Growth

What a state holds stays where it is, and more is added behind it. -/

structure Grows (s t : State) : Prop where
  contexts : s.contexts.items.length ≤ t.contexts.items.length
  routes : s.routes <+: t.routes
  places : s.places <+: t.places
  marks : s.nextMark ≤ t.nextMark

variable {s t u : State} {task : String} {route : Nat}

theorem Grows.refl (s : State) : Grows s s :=
  ⟨Nat.le_refl _, List.prefix_refl _, List.prefix_refl _, Nat.le_refl _⟩

theorem Grows.trans (first : Grows s t) (second : Grows t u) : Grows s u :=
  ⟨first.contexts.trans second.contexts, first.routes.trans second.routes,
    first.places.trans second.places, first.marks.trans second.marks⟩

theorem getElem?_extended {α : Type} {list longer : List α} {i : Nat} {a : α}
    (extended : list <+: longer) (found : list[i]? = some a) : longer[i]? = some a := by
  obtain ⟨more, rfl⟩ := extended
  rw [List.getElem?_append_left (List.getElem?_eq_some_iff.mp found).1]
  exact found

theorem Grows.place {i : Nat} {place : String × Nat} (grows : Grows s t)
    (there : s.places[i]? = some place) : t.places[i]? = some place :=
  getElem?_extended grows.places there

theorem LeadsBack.grow {places later : List (String × Nat)} {link : String × Nat}
    (leads : LeadsBack places link) (extended : places <+: later) : LeadsBack later link := by
  obtain ⟨task, route, key, found, named⟩ := leads
  exact ⟨task, route, key, getElem?_extended extended found, named⟩

theorem Held.grow {contexts : Shared (List Nat)} {prev : Shared (List (String × Nat))}
    {retry : Option (Shared Value)} (held : s.Held route contexts prev retry) (grows : Grows s t) :
    t.Held route contexts prev retry where
  route := Nat.lt_of_lt_of_le held.route grows.routes.length_le
  reads := held.reads.mono grows.contexts
  links := fun link mem => (held.links link mem).grow grows.places
  named := held.named
  contextsMark := held.contextsMark.mono grows.marks
  prevMark := held.prevMark.mono grows.marks
  retryMark := fun shared mem => (held.retryMark shared mem).mono grows.marks

theorem SoundEntry.grow {e : Entry} (sound : s.SoundEntry e) (grows : Grows s t) :
    t.SoundEntry e where
  held := sound.held.grow grows
  out := fun link mem => Nat.lt_of_lt_of_le (sound.out link mem) grows.contexts
  outNamed := sound.outNamed
  nextNamed := sound.nextNamed
  status := sound.status

theorem SoundStaged.grow {x : Staged} (sound : s.SoundStaged x) (grows : Grows s t) :
    t.SoundStaged x :=
  ⟨sound.held.grow grows, sound.items⟩

/-! ### The index by task and route -/

theorem isLast_append_self (places : List (String × Nat)) (task : String) (route index : Nat) :
    IsLast (places ++ [(task, route)]) task route index ↔ index = places.length := by
  constructor
  · rintro ⟨found, last⟩
    have bound : index < places.length + 1 := by simpa using (List.getElem?_eq_some_iff.mp found).1
    have least : places.length ≤ index := last places.length (by simp)
    exact Nat.le_antisymm (Nat.le_of_lt_succ bound) least
  · rintro rfl
    refine ⟨by simp, fun j found => ?_⟩
    exact Nat.le_of_lt_succ (by simpa using (List.getElem?_eq_some_iff.mp found).1)

theorem isLast_append_of_ne {places : List (String × Nat)} {place : String × Nat}
    {route index : Nat} (different : place ≠ (task, route)) :
    IsLast (places ++ [place]) task route index ↔ IsLast places task route index := by
  have same : ∀ j : Nat, (places ++ [place])[j]? = some (task, route) ↔
      places[j]? = some (task, route) := by
    intro j
    rcases Nat.lt_trichotomy j places.length with before | rfl | behind
    · rw [List.getElem?_append_left before]
    · simp [different]
    · rw [List.getElem?_eq_none (by simp; omega), List.getElem?_eq_none (by omega)]
  simp only [IsLast, same]

/-- A new entry is the latest one of its task on its route, and changes nothing for the others. -/
theorem Indexed.add {tasks places : List (String × Nat)} (indexed : Indexed tasks places)
    (task : String) (route : Nat) :
    Indexed (putNamed tasks (taskKey task route) places.length) (places ++ [(task, route)]) := by
  intro key index
  rw [lookup_putNamed]
  split
  case isTrue here =>
    constructor
    · intro found
      cases found
      exact ⟨task, route, here, (isLast_append_self ..).mpr rfl⟩
    · rintro ⟨other, way, there, last⟩
      obtain ⟨rfl, rfl⟩ := taskKey_inj (here.symm.trans there)
      rw [(isLast_append_self ..).mp last]
  case isFalse elsewhere =>
    rw [indexed key index]
    have kept : ∀ other way, key = taskKey other way →
        (IsLast (places ++ [(task, route)]) other way index ↔ IsLast places other way index) := by
      intro other way named
      refine isLast_append_of_ne fun same => elsewhere ?_
      cases same
      exact named
    constructor
    · rintro ⟨other, way, named, last⟩
      exact ⟨other, way, named, (kept other way named).mpr last⟩
    · rintro ⟨other, way, named, last⟩
      exact ⟨other, way, named, (kept other way named).mp last⟩

theorem Branching.add {routes : List (List String)} {old : List String} {here : String}
    (branching : Branching routes) (found : routes[route]? = some old) (new : here ∉ old) :
    Branching (routes ++ [old ++ [here]]) := by
  have extended : routes <+: routes ++ [old ++ [here]] := List.prefix_append ..
  refine ⟨getElem?_extended extended branching.root, fun i way taken => ?_⟩
  rcases Nat.lt_or_ge (i + 1) routes.length with before | behind
  · rw [List.getElem?_append_left before] at taken
    obtain ⟨j, earlier, origin, added, there, fresh, same⟩ := branching.branch i way taken
    exact ⟨j, earlier, origin, added, getElem?_extended extended there, fresh, same⟩
  · have last : i + 1 = routes.length := by
      have bound := (List.getElem?_eq_some_iff.mp taken).1
      simp only [List.length_append, List.length_singleton] at bound
      omega
    rw [last, List.getElem?_append_right (Nat.le_refl _), Nat.sub_self] at taken
    cases taken
    have earlier := (List.getElem?_eq_some_iff.mp found).1
    exact ⟨route, by omega, old, here, getElem?_extended extended found, new, rfl⟩

/-! ### Looking things up -/

theorem places_getElem? {index : Nat} :
    s.places[index]? = some (task, route) ↔
      ∃ e, s.sequence[index]? = some e ∧ e.task = task ∧ e.route = route := by
  simp [places, Entry.place]

theorem Indexed.exists_index {tasks places : List (String × Nat)} (indexed : Indexed tasks places)
    (started : (task, route) ∈ places) :
    ∃ last, tasks.lookup (taskKey task route) = some last ∧ places[last]? = some (task, route) := by
  obtain ⟨index, found⟩ := List.getElem?_of_mem started
  have bounded : ∀ j, places[j]? = some (task, route) → j ≤ places.length := fun j there =>
    Nat.le_of_lt (List.getElem?_eq_some_iff.mp there).1
  classical
  have least := Nat.findGreatest_spec (P := fun j => places[j]? = some (task, route))
    (bounded index found) found
  refine ⟨_, (indexed _ _).mpr ⟨task, route, rfl, least, ?_⟩, least⟩
  intro j there
  exact Nat.le_findGreatest (bounded j there) there

theorem Indexed.index?_place (indexed : Indexed s.tasks s.places) {route index : Nat}
    (found : s.index? task route = some index) : s.places[index]? = some (task, route) := by
  obtain ⟨other, way, named, last⟩ := (indexed _ _).mp found
  obtain ⟨rfl, rfl⟩ := taskKey_inj named
  exact last.1

theorem Indexed.task_eq (indexed : Indexed s.tasks s.places) {task other : String}
    {route way index : Nat} (found : s.index? task route = some index)
    (otherFound : s.index? other way = some index) : other = task ∧ way = route := by
  have same := (indexed.index?_place otherFound).symm.trans (indexed.index?_place found)
  simpa using same

theorem Grounded.entryAt (grounded : s.Grounded) {index : Nat}
    (found : s.places[index]? = some (task, route)) :
    ∃ e, s.sequence[index]? = some e ∧ e.task = task ∧ e.route = route ∧ s.SoundEntry e := by
  obtain ⟨e, there, tasks, routes⟩ := places_getElem?.mp found
  exact ⟨e, there, tasks, routes, grounded.entries e (List.mem_of_getElem? there)⟩

theorem staged?_eq_some {t : Staged} (found : s.staged? task route = some t) :
    t ∈ s.staged ∧ t.task = task ∧ t.route = route := by
  have here := List.find?_some found
  simp only [Staged.isAt, Bool.and_eq_true, beq_iff_eq] at here
  exact ⟨List.mem_of_find?_eq_some found, here.1, here.2⟩

theorem Grounded.sound (grounded : s.Grounded) (task : String) (route : Nat) :
    ∀ t ∈ s.staged? task route, t.task = task ∧ t.route = route ∧ s.SoundStaged t := by
  intro t found
  obtain ⟨mem, tasks, routes⟩ := staged?_eq_some found
  exact ⟨tasks, routes, grounded.staged t mem⟩

end State

end Orchestration
