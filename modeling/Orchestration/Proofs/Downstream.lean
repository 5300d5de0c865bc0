import Orchestration.Conductor.Rerun
import Orchestration.Proofs.Grounding

/-!
What is run again with a task.

A task that is run again takes with it the entries that link back to it. These are the entries one
step away from it, and not those that follow from them in turn. Of several requests those are left
out that reach nothing beyond what each of the others reaches.
-/

namespace Orchestration

namespace State

variable {s : State} {task : String} {route i : Nat}

def Stems (s : State) (place : String × Nat) (i : Nat) : Prop :=
  ∃ e, s.sequence[i]? = some e ∧ ∃ link ∈ e.prev.value, s.places[link.2]? = some place

/-- What comes at the end of a chain of links that starts at a task on a route. -/
inductive Descends (s : State) (place : String × Nat) : Nat → Prop
  | stem {i : Nat} : s.Stems place i → s.Descends place i
  | go {i j : Nat} {next : String × Nat} :
      s.Descends place i → s.places[i]? = some next → s.Stems next j → s.Descends place j

/-- Downstream of a task are its latest entry and all entries that link back to it. -/
theorem mem_downstream :
    i ∈ s.downstream task route ↔ s.index? task route = some i ∨ s.Stems (task, route) i := by
  have at_iff (p : Nat) :
      ((s.sequence[p]?).map (·.isAt task route)).getD false = true ↔
        s.places[p]? = some (task, route) := by
    cases found : s.sequence[p]? <;> simp [places, Entry.place, Entry.isAt, found]
  have numbered_iff (e : Entry) : (i, e) ∈ s.numbered ↔ s.sequence[i]? = some e := by
    simp [numbered, List.mem_zipIdx_iff_getElem?]
  simp only [downstream, List.mem_append, Option.mem_toList, List.mem_flatMap, List.mem_map, Stems]
  refine or_congr_right ⟨?_, ?_⟩
  · rintro ⟨⟨j, e⟩, among, link, linked, rfl⟩
    obtain ⟨there, leads⟩ := List.mem_filter.mp linked
    exact ⟨e, (numbered_iff e).mp among, link, there, (at_iff link.2).mp leads⟩
  · rintro ⟨e, found, link, there, leads⟩
    exact ⟨(i, e), (numbered_iff e).mpr found, link,
      List.mem_filter.mpr ⟨there, (at_iff link.2).mpr leads⟩, rfl⟩

/-- Downstream of a task is what chains of links lead to exactly if nothing more is two steps
away. -/
theorem downstream_closed_iff (indexed : Indexed s.tasks s.places) :
    (∀ i, i ∈ s.downstream task route ↔ s.index? task route = some i ∨ s.Descends (task, route) i) ↔
      ∀ i next j, s.Stems (task, route) i → s.places[i]? = some next → s.Stems next j →
        j ∈ s.downstream task route := by
  constructor
  · intro closed i next j first here second
    exact (closed j).mpr (.inr (.go (.stem first) here second))
  · intro near i
    refine ⟨fun reached => (mem_downstream.mp reached).imp_right .stem, ?_⟩
    rintro (latest | descends)
    · exact mem_downstream.mpr (.inl latest)
    induction descends with
    | stem first => exact mem_downstream.mpr (.inr first)
    | @go i j next _ here step ih =>
      rcases mem_downstream.mp ih with latest | stems
      · -- The chain has come back to the task, and starts there again.
        obtain rfl : next = (task, route) :=
          Option.some.inj (here.symm.trans (indexed.index?_place latest))
        exact mem_downstream.mpr (.inr step)
      · exact near i next j stems here step

end State

namespace Conductor

variable {s : State} {requests : List (String × Rerun)} {r k : String × Rerun}

/-- Of several requests one is kept exactly if it reaches something that another one does not. -/
theorem mem_collapse (several : 1 < requests.length) : r ∈ collapse s requests ↔
    r ∈ requests ∧ ∃ other ∈ requests, ¬ reached s r.2 ⊆ reached s other.2 := by
  have filtered : collapse s requests = requests.filter fun r =>
      isKept (reached s r.2) (requests.map fun other => reached s other.2) := by
    rw [← List.filterMap_eq_filter]
    refine (if_pos several).trans ?_
    have zipped : (requests.map id).zip (requests.map fun r => reached s r.2) =
        requests.map fun r => (r, reached s r.2) := List.zip_map'
    rw [List.map_id] at zipped
    exact (congrArg _ zipped).trans List.filterMap_map
  simp [filtered, isKept, List.subset_def]

section Several

variable (several : 1 < requests.length) (among : r ∈ requests)

include several among

theorem reached_subset (out : r ∉ collapse s requests) (other : k ∈ requests) :
    reached s r.2 ⊆ reached s k.2 := by
  by_contra beyond
  exact out ((mem_collapse several).mpr ⟨among, k, other, beyond⟩)

/-- If any request is kept, then each is covered by one that is kept. -/
theorem exists_covering (kept : k ∈ collapse s requests) :
    ∃ k ∈ collapse s requests, reached s r.2 ⊆ reached s k.2 := by
  by_cases own : r ∈ collapse s requests
  · exact ⟨r, own, List.Subset.refl _⟩
  · exact ⟨k, kept, reached_subset several among own ((mem_collapse several).mp kept).1⟩

/-- If none is kept, then the latest entry of each task links back to each of the others. -/
theorem stems_of_collapse_eq_nil {task next : String} {route way i : Nat}
    (indexed : State.Indexed s.tasks s.places) (none : collapse s requests = [])
    (asks : r.2.task = .str task ∧ r.2.route = .int route) (other : k ∈ requests)
    (asksOther : k.2.task = .str next ∧ k.2.route = .int way)
    (latest : s.index? task route = some i) (apart : (task, route) ≠ (next, way)) :
    s.Stems (next, way) i := by
  have part := reached_subset several among (none ▸ List.not_mem_nil) other
  simp only [reached, asks, asksOther] at part
  have reaches := State.mem_downstream.mp (part (State.mem_downstream.mpr (.inl latest)))
  refine reaches.resolve_left fun same => apart ?_
  exact Option.some.inj ((indexed.index?_place latest).symm.trans (indexed.index?_place same))

end Several

end Conductor

end Orchestration
