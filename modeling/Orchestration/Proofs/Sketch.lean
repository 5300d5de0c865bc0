import Orchestration.Proofs.Reporting
import Orchestration.Proofs.Rereading

/-!
The sketch of a state: its outline, with what is known of the items of tasks that are staged, with
the tasks that are to be started even when the workflow has failed, and with the routes.

It says all about which tasks are started, how often and on which routes. Quiet moves keep the
sketch.
-/

namespace Orchestration

def Staged.sketch (t : Staged) : Staged :=
  { t with contexts := ⟨0, []⟩, prev := ⟨0, []⟩, retry := none }

namespace State

def sketch (s : State) : State :=
  { empty with
    routes := s.routes
    sequence := s.sequence.map Entry.outline
    staged := s.staged.map Staged.sketch
    status := s.status
    tasks := s.tasks }

variable {s t : State}

/-! ### What can be told from the sketch -/

@[simp]
theorem status_sketch (s : State) : s.sketch.status = s.status := rfl

@[simp]
theorem tasks_sketch (s : State) : s.sketch.tasks = s.tasks := rfl

@[simp]
theorem outline_sketch (s : State) : s.sketch.outline = s.outline := by
  simp only [outline, sketch, List.map_map]
  rfl

@[simp]
theorem getElem?_sketch (s : State) (i : Nat) :
    s.sketch.sequence[i]? = s.sequence[i]?.map Entry.outline :=
  List.getElem?_map ..

@[simp]
theorem places_sketch (s : State) : s.sketch.places = s.places := by
  simp only [places, sketch, List.map_map]
  rfl

@[simp]
theorem index?_sketch (s : State) (task : String) (route : Nat) :
    s.sketch.index? task route = s.index? task route :=
  rfl

@[simp]
theorem staged?_sketch (s : State) (task : String) (route : Nat) :
    s.sketch.staged? task route = (s.staged? task route).map Staged.sketch := by
  simp only [staged?, sketch, List.find?_map]
  rfl

@[simp]
theorem isMet_sketch (s : State) (g : Graph) (task : String) (route : Nat) :
    Conductor.isMet g s.sketch task route = Conductor.isMet g s task route := by
  rw [← isMet_outline s.sketch, outline_sketch, isMet_outline]

@[simp]
theorem hasLatest_sketch (s : State) (statuses : List Status) :
    s.sketch.hasLatest statuses = s.hasLatest statuses := by
  rw [← hasLatest_outline s.sketch, outline_sketch, hasLatest_outline]

@[simp]
theorem hasReady_sketch (s : State) : s.sketch.hasReady = s.hasReady := by
  rw [← hasReady_outline s.sketch, outline_sketch, hasReady_outline]

theorem surrounds_sketch {g : Graph} {task : String} {route : Nat}
    {around : Machine.Workflow.Surroundings} :
    Surrounds g s.sketch task route around ↔ Surrounds g s task route around := by
  rw [← surrounds_outline, outline_sketch, surrounds_outline]

theorem itemsOf_sketch (x : Option Staged) : itemsOf (x.map Staged.sketch) = itemsOf x := by
  cases x <;> rfl

/-- What an event tells a task depends on the items of the task and on nothing else. -/
@[simp]
theorem statusAfter_sketch (s : State) (task : String) (route : Nat) (status : Status) (e : Event) :
    s.sketch.statusAfter task route status e = s.statusAfter task route status e := by
  have request : s.sketch.requestSignal task route e = s.requestSignal task route e := by
    unfold requestSignal
    rw [staged?_sketch]
    cases s.staged? task route <;> rfl
  have item (index : Value) :
      s.sketch.itemSignal task route e index = s.itemSignal task route e index := by
    unfold itemSignal
    rw [staged?_sketch, itemsOf_sketch]
  simp only [statusAfter, signalFor, request, item]

/-! ### How the sketch changes -/

theorem sketch_addEntry (s : State) (e : Entry) :
    (s.addEntry e).sketch = s.sketch.addEntry e.outline := by
  simp [addEntry, sketch, Entry.outline]

theorem sketch_updateEntry {f g : Entry → Entry} (same : ∀ e, (f e).outline = g e.outline)
    (s : State) (index : Nat) : (s.updateEntry index f).sketch = s.sketch.updateEntry index g := by
  simp only [updateEntry, sketch, State.mk.injEq, true_and, and_true]
  exact congrArg sequence (outline_updateEntry same s index)

theorem sketch_stage (s : State) (task : String) (route : Nat) (contexts : Shared (List Nat))
    (prev : Shared (List (String × Nat))) (ready : Bool) (retry : Option (Shared Value)) :
    (s.stage task route contexts prev ready retry).sketch =
      s.sketch.stage task route ⟨0, []⟩ ⟨0, []⟩ ready none := by
  simp [stage, sketch, Staged.sketch]

theorem sketch_updateStaged {f g : Staged → Staged}
    (same : ∀ t, (f t).sketch = g t.sketch) (s : State) (task : String) (route : Nat) :
    (s.updateStaged task route f).sketch = s.sketch.updateStaged task route g := by
  have place : s.sketch.staged.findIdx (·.isAt task route) = s.staged.findIdx
      (·.isAt task route) := by
    simp only [sketch, List.findIdx_map]
    rfl
  unfold updateStaged
  rw [place]
  simp only [sketch, State.mk.injEq, true_and, and_true]
  exact map_modify same s.staged _

theorem sketch_unstage (s : State) (task : String) (route : Nat) :
    (s.unstage task route).sketch = s.sketch.unstage task route := by
  unfold unstage
  rw [staged?_sketch]
  cases s.staged? task route with
  | none => rfl
  | some x =>
    have active : x.sketch.hasActiveItem = x.hasActiveItem := rfl
    simp only [Option.map_some, active]
    split
    · rfl
    · simp only [sketch, List.eraseP_map]
      rfl

theorem Quiet.sketch_eq (quiet : Quiet s t) : t.sketch = s.sketch := by
  cases quiet with
  | gather | gatherMore | publish | share => rfl
  | out index key new =>
    rw [sketch_updateEntry (g := id) (by intro _; rfl), updateEntry, List.modify_id]
  | read | link | account =>
    simp only [changeContexts, changePrev, changeRetry, sketch, List.map_map]
    rfl

/-- A state that has been written and read has the same sketch. -/
theorem sketch_reread (s : State) : s.reread.sketch = s.sketch := by
  have sequence : s.reread.sequence.map Entry.outline = s.sequence.map Entry.outline := by
    refine (map_numberFrom (by intro _ _; rfl) s.writtenSequence 1).trans ?_
    unfold writtenSequence
    split
    · rw [List.map_map]
      rfl
    · rfl
  have staged : s.reread.staged.map Staged.sketch = s.staged.map Staged.sketch := by
    refine (map_numberFrom (by intro _ _; rfl) s.writtenStaged _).trans ?_
    unfold writtenStaged
    split
    · rw [List.map_map]
      rfl
    · rfl
  unfold sketch
  rw [sequence, staged]
  rfl

end State

end Orchestration
