import Orchestration.Conductor.Status
import Orchestration.Proofs.Moves

/-!
The outline of a state: all that the status of the workflow depends on.

That is which tasks have been started, how far each of them has come and where it went on to, and
what is staged. Contexts, links, accounts of retries, items and routes are left out. Quiet moves
keep the outline.
-/

namespace Orchestration

def Entry.outline (e : Entry) : Entry :=
  ⟨e.task, e.route, ⟨0, []⟩, [], ⟨0, []⟩, e.next, none, e.status, false⟩

def Staged.outline (t : Staged) : Staged :=
  ⟨t.task, t.route, ⟨0, []⟩, ⟨0, []⟩, t.ready, none, none, t.completed, false⟩

@[simp]
theorem Entry.isCompleted_outline (e : Entry) : e.outline.isCompleted = e.isCompleted := rfl

namespace State

def outline (s : State) : State :=
  { empty with
    sequence := s.sequence.map Entry.outline
    staged := s.staged.map Staged.outline
    status := s.status
    tasks := s.tasks }

variable {s t : State}

/-! ### What can be told from the outline -/

@[simp]
theorem status_outline (s : State) : s.outline.status = s.status := rfl

@[simp]
theorem tasks_outline (s : State) : s.outline.tasks = s.tasks := rfl

@[simp]
theorem getElem?_outline (s : State) (i : Nat) :
    s.outline.sequence[i]? = s.sequence[i]?.map Entry.outline :=
  List.getElem?_map ..

@[simp]
theorem places_outline (s : State) : s.outline.places = s.places := by
  simp only [places, outline, List.map_map]
  rfl

@[simp]
theorem index?_outline (s : State) (task : String) (route : Nat) :
    s.outline.index? task route = s.index? task route :=
  rfl

@[simp]
theorem latest?_outline (s : State) (task : String) (route : Nat) :
    s.outline.latest? task route = (s.latest? task route).map Entry.outline := by
  unfold latest?
  rw [index?_outline]
  cases s.index? task route with
  | none => rfl
  | some i => exact getElem?_outline s i

@[simp]
theorem hasLatest_outline (s : State) (statuses : List Status) :
    s.outline.hasLatest statuses = s.hasLatest statuses := by
  have numbered : s.outline.numbered = s.numbered.map fun one => (one.1, one.2.outline) := by
    simp only [State.numbered, outline, List.zipIdx_map, List.map_map]
    rfl
  simp only [hasLatest, entriesWith, restrict, if_true, numbered, List.filter_map, List.isEmpty_map]
  rfl

@[simp]
theorem hasReady_outline (s : State) : s.outline.hasReady = s.hasReady := by
  simp only [hasReady, ready, outline, List.filter_map, List.isEmpty_map]
  rfl

theorem staged?_outline (s : State) (task : String) (route : Nat) :
    s.outline.staged? task route = (s.staged? task route).map Staged.outline := by
  simp only [staged?, outline, List.find?_map]
  rfl

open Conductor

@[simp]
theorem taken_outline (s : State) (edge : Edge) (route : Nat) :
    taken s.outline edge route = taken s edge route := by
  unfold taken
  rw [latest?_outline]
  cases s.latest? edge.source route <;> rfl

@[simp]
theorem inboundOf_outline (s : State) (g : Graph) (task : String) (route : Nat) :
    inboundOf g s.outline task route = inboundOf g s task route := by
  simp only [inboundOf, inboundFrom, taken_outline]

@[simp]
theorem isMet_outline (s : State) (g : Graph) (task : String) (route : Nat) :
    isMet g s.outline task route = isMet g s task route := by
  simp only [isMet, inboundOf_outline]

@[simp]
theorem inboundIn_outline (s : State) (g : Graph) (task : String) (route : Nat) :
    inboundIn g s.outline task route = inboundIn g s task route := by
  unfold inboundIn hasActive
  rw [isMet_outline, inboundOf_outline, hasLatest_outline, hasReady_outline]

@[simp]
theorem leadsOn_outline (s : State) (g : Graph) (e : Entry) (route : Nat) (judgeJoins : Bool)
    (edge : Edge) :
    leadsOn g s.outline e.outline route judgeJoins edge = leadsOn g s e route judgeJoins edge := by
  simp only [leadsOn, inboundIn_outline]
  rfl

@[simp]
theorem outlook_outline (s : State) (next : Bool) : outlook s.outline next = outlook s next := by
  unfold outlook hasCanceling hasCanceled hasPausing hasPaused
  rw [hasLatest_outline, hasLatest_outline, hasLatest_outline, hasLatest_outline, hasReady_outline]

/-! ### How the outline changes -/

theorem outline_updateEntry {f g : Entry → Entry} (same : ∀ e, (f e).outline = g e.outline)
    (s : State) (index : Nat) :
    (s.updateEntry index f).outline = s.outline.updateEntry index g := by
  simp only [updateEntry, outline, State.mk.injEq, true_and, and_true]
  exact map_modify same s.sequence index

theorem outline_addEntry (s : State) (e : Entry) :
    (s.addEntry e).outline = s.outline.addEntry e.outline := by
  simp [addEntry, outline, Entry.outline]

theorem outline_stage (s : State) (task : String) (route : Nat) (contexts : Shared (List Nat))
    (prev : Shared (List (String × Nat))) (ready : Bool) (retry : Option (Shared Value)) :
    (s.stage task route contexts prev ready retry).outline =
      s.outline.stage task route ⟨0, []⟩ ⟨0, []⟩ ready none := by
  simp [stage, outline, Staged.outline]

theorem findIdx_outline (s : State) (task : String) (route : Nat) :
    s.outline.staged.findIdx (·.isAt task route) = s.staged.findIdx (·.isAt task route) := by
  simp only [outline, List.findIdx_map]
  rfl

theorem outline_updateStaged {f g : Staged → Staged}
    (same : ∀ t, (f t).outline = g t.outline) (s : State) (task : String) (route : Nat) :
    (s.updateStaged task route f).outline = s.outline.updateStaged task route g := by
  unfold updateStaged
  rw [findIdx_outline]
  simp only [outline, State.mk.injEq, true_and, and_true]
  exact map_modify same s.staged _

theorem Quiet.outline_eq (quiet : Quiet s t) : t.outline = s.outline := by
  cases quiet with
  | gather | gatherMore | publish | share => rfl
  | out index key new =>
    rw [outline_updateEntry (g := id) (by intro _; rfl), updateEntry, List.modify_id]
  | read | link | account =>
    simp only [changeContexts, changePrev, changeRetry, outline, List.map_map]
    rfl

end State

end Orchestration
