import Orchestration.Proofs.Cycles

/-!
How splits spread through a flow.

Each way that is taken carries the splits through which it has come. The walk comes to an end in
every flow in which nothing is undefined, with cycles or without.
-/

namespace Orchestration.Flow

open Relation (TransGen)

variable {flow : Flow} {way : Way}

namespace Spread

def tasks (spread : Spread) : List String := spread.reached.map (·.task)

theorem knows_iff {spread : Spread} {task : String} :
    spread.knows task = true ↔ task ∈ spread.tasks := by
  simp [knows, tasks]

theorem mem_tasks_note {spread : Spread} {isJoin : Bool} {splits : List String} {task : String} :
    task ∈ (spread.note way isJoin splits).tasks ↔ task ∈ spread.tasks ∨ task = way.task := by
  unfold note
  dsimp only
  split
  case isTrue known =>
    have same : (fun r : Reached => r.task) ∘ (fun r => if r.task == way.task then
        { r with splits := joinSets r.splits splits, before := joinSets r.before way.source.toList }
        else r) = (·.task) := by
      funext r
      simp only [Function.comp_apply]
      split <;> rfl
    rw [tasks, List.map_map, same]
    exact (or_iff_left_of_imp fun named => named ▸ knows_iff.mp known).symm
  case isFalse => simp [tasks]

theorem take_cases (spread : Spread) (source target : String) (splits : List String) :
    (spread.take source target splits).1.reached = spread.reached ∧
      ∀ way ∈ (spread.take source target splits).2, way.task = target := by
  unfold take
  dsimp only
  split <;> simp

end Spread

/-- The ways on from a task are taken, but not those to tasks that have been reached and lie in a
cycle. -/
theorem exists_takeLinks (closed : flow.Closed) {links : List Link}
    (reaches : ∀ link ∈ links, flow.Reaches link.task) (source : String) (splits : List String)
    (spread : Spread) : ∃ last ways,
      flow.takeLinks source splits spread links = .ok (last, ways) ∧ last.reached = spread.reached ∧
      ∀ way ∈ ways, (∃ link ∈ links, link.task = way.task) ∧
        (TransGen flow.Leads way.task way.task → way.task ∉ spread.tasks) := by
  induction links generalizing spread with
  | nil => exact ⟨spread, [], rfl, rfl, List.forall_mem_nil _⟩
  | cons link rest ih =>
    obtain ⟨reachesOne, reachesMore⟩ := List.forall_mem_cons.mp reaches
    obtain ⟨cyclic, told, returns⟩ := inCycle_iff closed reachesOne
    rw [takeLinks, told]
    by_cases shut : spread.knows link.task = true ∧ cyclic = true
    · obtain ⟨last, ways, done, kept, only⟩ := ih reachesMore spread
      refine ⟨last, ways, ?_, kept, by grind⟩
      rw [if_pos shut.1, shut.2]
      exact bind_eq_ok.mpr ⟨true, rfl, bind_eq_ok.mpr ⟨false, rfl, bind_eq_ok.mpr ⟨_, done, rfl⟩⟩⟩
    · have first := spread.take_cases source link.task splits
      obtain ⟨last, ways, done, kept, only⟩ :=
        ih reachesMore (spread.take source link.task splits).1
      rw [Spread.tasks, first.1] at only
      refine ⟨last, (spread.take source link.task splits).2 ++ ways, ?_, kept.trans first.1,
        List.forall_mem_append.mpr ⟨fun way isWay => ?_, by grind [Spread.tasks]⟩⟩
      · split
        case isTrue known =>
          rw [Bool.eq_false_iff.mpr fun isCyclic => shut ⟨known, isCyclic⟩]
          exact bind_eq_ok.mpr ⟨false, rfl,
            bind_eq_ok.mpr ⟨true, rfl, bind_eq_ok.mpr ⟨_, done, rfl⟩⟩⟩
        case isFalse => exact bind_eq_ok.mpr ⟨true, rfl, bind_eq_ok.mpr ⟨_, done, rfl⟩⟩
      · rw [first.2 way isWay]
        exact ⟨⟨link, List.mem_cons_self .., rfl⟩, fun cycle there =>
          shut ⟨Spread.knows_iff.mpr there, returns.mpr cycle⟩⟩

theorem goWay_of_undefined (undefined : flow.defines way.task = false) (spread : Spread) :
    flow.goWay spread way = .ok (spread, []) := by
  unfold goWay
  rw [undefined]
  rfl

theorem exists_goWay (closed : flow.Closed) (reaches : flow.Reaches way.task)
    (defined : flow.defines way.task = true) (spread : Spread) :
    ∃ last ways, flow.goWay spread way = .ok (last, ways) ∧
      (∀ task, task ∈ last.tasks ↔ task ∈ spread.tasks ∨ task = way.task) ∧
      ∀ next ∈ ways, flow.Leads way.task next.task ∧
        (TransGen flow.Leads next.task next.task → next.task ∉ way.task :: spread.tasks) := by
  obtain ⟨step, found, plain⟩ := closed way.task reaches
  obtain ⟨cyclic, told, -⟩ := inCycle_iff closed reaches
  have joins : flow.isJoin way.task = .ok step.isJoin := bind_eq_ok.mpr ⟨step, found, rfl⟩
  obtain ⟨split, isSplit⟩ : ∃ split, flow.isSplit way.task = .ok split :=
    ⟨_, bind_eq_ok.mpr ⟨_, joins, rfl⟩⟩
  have refused : step.refuseOdd oddName = .ok () := Step.refuseOdd_eq_ok plain oddName
  let splits := if split && !cyclic then way.splits ++ [way.task] else way.splits
  obtain ⟨last, ways, done, kept, only⟩ := exists_takeLinks closed
    (fun link isLink => .onward reaches (leads_of_mem found isLink)) way.task splits
    (spread.note way step.isJoin splits)
  refine ⟨last, ways, ?_, fun task => ?_, fun next isNext => ?_⟩
  · unfold goWay
    rw [defined, Bool.not_true, if_neg Bool.false_ne_true]
    refine bind_eq_ok.mpr ⟨split, isSplit, ?_⟩
    cases split with
    | false =>
      exact bind_eq_ok.mpr ⟨_, rfl, bind_eq_ok.mpr ⟨_, joins,
        bind_eq_ok.mpr ⟨step, found, bind_eq_ok.mpr ⟨(), refused, done⟩⟩⟩⟩
    | true =>
      exact bind_eq_ok.mpr ⟨cyclic, told, bind_eq_ok.mpr ⟨_, rfl, bind_eq_ok.mpr ⟨_, joins,
        bind_eq_ok.mpr ⟨step, found, bind_eq_ok.mpr ⟨(), refused, done⟩⟩⟩⟩⟩
  · rw [Spread.tasks, kept]
    exact Spread.mem_tasks_note
  · obtain ⟨⟨link, isLink, same⟩, fresh⟩ := only next isNext
    rw [Spread.mem_tasks_note, or_comm, ← List.mem_cons] at fresh
    exact ⟨same ▸ leads_of_mem found isLink, fresh⟩

theorem exists_spread (closed : flow.Closed) : ∃ last, Worklist.run flow.goWay flow.rounds ⟨[], []⟩
    (flow.startTasks.map fun task => ⟨none, task, []⟩) = .ok last := by
  refine Worklist.run_ends (fun _ => True) (fun k spread way => flow.Reaches way.task ∧
    flow.Ahead k spread.tasks way.task) (flow.steps.length + 1) ?_ (fun _ _ _ _ waits => waits.2.lt)
    trivial (List.forall_mem_map.mpr fun name isStart =>
      ⟨.start isStart, .start [] name⟩) (by unfold rounds; omega)
  rintro k spread way - ⟨reaches, ahead⟩
  cases defined : flow.defines way.task with
  | false =>
    exact ⟨spread, [], goWay_of_undefined defined spread, trivial, List.forall_mem_nil _,
      fun _ _ waits => waits⟩
  | true =>
    obtain ⟨last, ways, done, tasks, only⟩ := exists_goWay closed reaches defined spread
    have grown : way.task :: spread.tasks ⊆ last.tasks :=
      fun t there => (tasks t).mpr (List.mem_cons.mp there).symm
    refine ⟨last, ways, done, trivial, fun next isWay => ?_,
      fun j other waits => ⟨waits.1, waits.2.mono ?_⟩⟩
    · obtain ⟨leads, fresh⟩ := only next isWay
      exact ⟨.onward reaches leads, (ahead.onward leads fresh).mono grown⟩
    · exact List.Subset.trans (List.subset_cons_self ..) grown

end Orchestration.Flow

/-- The joins are looked at to the end if every target that can be reached is there. -/
theorem Orchestration.Spec.exists_unreachable_of_closed {tasks : Spec} {flow : Flow}
    (described : tasks.flow = .ok flow) (closed : flow.Closed) (place : Place) :
    ∃ found, tasks.detectUnreachable (some place) = .ok found := by
  obtain ⟨last, ended⟩ := Flow.exists_spread closed
  have joins : flow.unreachableJoins = .ok _ :=
    bind_eq_ok.mpr ⟨_, bind_eq_ok.mpr ⟨last, ended, rfl⟩, rfl⟩
  unfold detectUnreachable
  rw [described]
  change ∃ found, (if flow.startTasks.isEmpty then _ else _) = Except.ok found
  split
  · exact ⟨[], rfl⟩
  · exact ⟨_, bind_eq_ok.mpr ⟨place, rfl, bind_eq_ok.mpr ⟨_, joins, rfl⟩⟩⟩

theorem Orchestration.Spec.exists_detectUnreachable {tasks : Spec} {place : Place}
    (defined : tasks.detectUndefined (some place) = .ok []) :
    ∃ found, tasks.detectUnreachable (some place) = .ok found := by
  obtain ⟨flow, described, closed⟩ := closed_of_detectUndefined defined
  exact exists_unreachable_of_closed described closed place
