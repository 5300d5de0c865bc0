import Orchestration.Expression.Engine
import Orchestration.Proofs.Operation
import Orchestration.Proofs.Progress
import Orchestration.Proofs.Sketch

/-!
Hosts that keep to the rules.

Such a host reports on a task that is staged only to start it, and otherwise only on tasks that are
not completed. Once it has asked the workflow to run, the workflow never gets stuck.
-/

namespace Orchestration

open Machine.Workflow (begun)

/-- Whether a host that keeps to the rules may ask this now. It asks for no rerun. -/
def Operation.isPermitted (c : Conductor) : Operation → Bool
  | .update task route report =>
    ((c.state.staged? task route).isSome && report.event.status.isStarting) ||
      (c.state.latest? task route).any (!·.isCompleted)
  | .rerun _ => false
  | _ => true

def Conductor.afterPermitted? [Engine] (c : Conductor) : List Operation → Option Conductor
  | [] => some c
  | op :: rest =>
    if op.isPermitted c then
      match Conducting.result op.run c with
      | (.ok _, d) => d.afterPermitted? rest
      | (.error _, _) => none
    else none

/-! ### States -/

namespace State

variable {s t : State}

theorem underway_outline : s.outline.Underway ↔ s.Underway := by
  constructor
  · rintro ⟨started, indexed, progressing⟩
    rw [tasks_outline, places_outline] at indexed
    exact ⟨started, indexed, progressing_outline.mp progressing⟩
  · rintro ⟨started, indexed, progressing⟩
    rw [← tasks_outline, ← places_outline] at indexed
    exact ⟨started, indexed, progressing_outline.mpr progressing⟩

theorem outline_reread (s : State) : s.reread.outline = s.outline := by
  rw [← outline_sketch, sketch_reread, outline_sketch]

theorem fits_of_isPermitted {c : Conductor} {task : String} {route : Nat} {report : Report}
    (permitted : Operation.isPermitted c (.update task route report) = true) :
    Fits task route report.event c.state.outline := by
  intro entry latest completed
  rw [latest?_outline] at latest
  obtain ⟨original, found, rfl⟩ := Option.map_eq_some_iff.mp latest
  simp only [Operation.isPermitted, found, Option.any_some, Bool.or_eq_true, Bool.and_eq_true,
    Bool.not_eq_true'] at permitted
  rcases permitted with ⟨-, starting⟩ | incomplete
  · exact .inr (.inl starting)
  · rw [Entry.isCompleted_outline, incomplete] at completed
    cases completed

theorem Requested.underway_of_unset (requested : Requested .running s t) (unset : s.status = .unset)
    (indexed : Indexed s.tasks s.places) (ready : s.hasReady = true) : t.Underway := by
  obtain ⟨told, answer, tells, -, led, rfl, -⟩ := requested
  cases (told_eq tells).2.2.2 rfl
  have starts (active : Bool) : Machine.Workflow.step .unset
      (Machine.Workflow.requestSignal (.workflow .running) active false) = .ok (some .running) := by
    cases active <;> rfl
  have unsettled : Conductor.requestSignal s (.workflow .running) =
      Machine.Workflow.requestSignal (.workflow .running) s.hasActive false := by
    unfold Conductor.requestSignal
    rw [unset]
    rfl
  rw [unsettled, unset, starts] at led
  cases led
  refine ⟨show Status.running ∈ begun by decide, indexed, ⟨fun _ => .inr (.inl ready), ?_⟩⟩
  rintro (impossible | impossible) <;> cases impossible

theorem hasReady_foldl_stageRoot (roots : List Vertex) (s : State)
    (ready : roots ≠ [] ∨ s.hasReady = true) : (roots.foldl stageRoot s).hasReady = true := by
  induction roots generalizing s with
  | nil => exact ready.resolve_left fun some => some rfl
  | cons v rest ih =>
    refine ih (s.stageRoot v) (.inr ?_)
    simp [hasReady, State.ready, stageRoot, stage, Staged.isReady]

theorem status_foldl_stageRoot (roots : List Vertex) (s : State) :
    (roots.foldl stageRoot s).status = s.status := by
  induction roots generalizing s with
  | nil => rfl
  | cons v rest ih => exact ih (s.stageRoot v)

end State

/-! ### Conductors -/

namespace Conductor

structure Underway (c : Conductor) : Prop where
  grounded : c.state.Grounded
  drawn : ∃ g, c.graph? = some g ∧ g.Drawn
  underway : c.state.Underway

variable {c d : Conductor}

theorem Underway.of_moves (old : c.Underway) (moves : Moves c d) (underway : d.state.Underway) :
    d.Underway := by
  obtain ⟨g, known, drawn⟩ := old.drawn
  exact ⟨moves.grounded old.grounded, ⟨g, moves.graph_eq known, drawn⟩, underway⟩

theorem Underway.reload (underway : c.Underway)
    (done : Conducting.result Conductor.reload c = (.ok (), d)) : d.Underway := by
  obtain ⟨g, known, drawn⟩ := underway.drawn
  rcases reload_cases underway.grounded.toSound with
    ⟨e, d, found, -⟩ | ⟨charted, g', read, d, charts, knownThen, found, readGraph, knownNow, same⟩
  · cases found.symm.trans done
  · cases found.symm.trans done
    cases charts.eq_of_graph known
    cases known.symm.trans knownThen
    obtain ⟨f, -, redrawn⟩ := Graph.deserialize_serialize drawn
    cases redrawn.symm.trans readGraph
    refine ⟨same ▸ State.grounded_reread underway.grounded, ⟨_, knownNow, drawn.redrawn f⟩, ?_⟩
    rw [same]
    refine State.underway_outline.mp ?_
    rw [State.outline_reread]
    exact State.underway_outline.mpr underway.underway

theorem Underway.of_run [Engine] {op : Operation} {answer : Answer} (underway : c.Underway)
    (permitted : op.isPermitted c = true) (done : Conducting.result op.run c = (.ok answer, d)) :
    d.Underway := by
  have outlined := State.underway_outline.mpr underway.underway
  cases op with
  | request status =>
    obtain ⟨_, _, done, same⟩ := Conducting.result_bind_eq_ok.mp done
    cases same
    obtain ⟨moves, requested⟩ := (requestStatus_runs c status).answer done
    exact underway.of_moves moves (requested.underway underway.underway)
  | next =>
    obtain ⟨_, _, done, same⟩ := Conducting.result_bind_eq_ok.mp done
    cases same
    obtain ⟨moves, kept⟩ := (nextTasks_runs underway.grounded).answer done
    exact underway.of_moves moves (State.underway_outline.mp (kept.underway outlined))
  | update task route report =>
    obtain ⟨_, _, done, same⟩ := Conducting.result_bind_eq_ok.mp done
    cases same
    obtain ⟨g, known, drawn⟩ := underway.drawn
    obtain ⟨moves, took⟩ := (update_runs underway.grounded report.known).answer done
    have tookAlong := took g known drawn.numbered
    refine underway.of_moves moves (State.underway_outline.mp ?_)
    exact tookAlong.underway outlined.started outlined.indexed (State.fits_of_isPermitted permitted)
  | rerun => cases permitted
  | render =>
    obtain ⟨_, _, done, same⟩ := Conducting.result_bind_eq_ok.mp done
    cases same
    obtain ⟨moves, kept⟩ := (renderOutput_runs fun _ => underway.grounded).answer done
    exact underway.of_moves moves (State.underway_outline.mp (kept.underway outlined))
  | reload =>
    obtain ⟨_, _, done, same⟩ := Conducting.result_bind_eq_ok.mp done
    cases same
    exact underway.reload done

theorem afterPermitted?_cons [Engine] {op : Operation} {rest : List Operation}
    (done : c.afterPermitted? (op :: rest) = some d) : op.isPermitted c = true ∧
      ∃ answer e, Conducting.result op.run c = (.ok answer, e) ∧
        e.afterPermitted? rest = some d := by
  rw [afterPermitted?] at done
  split at done
  case isTrue permitted =>
    split at done
    case h_1 answer e found => exact ⟨permitted, answer, e, found, done⟩
    case h_2 => cases done
  case isFalse => cases done

theorem Underway.afterPermitted [Engine] {ops : List Operation} (underway : c.Underway)
    (done : c.afterPermitted? ops = some d) : d.Underway := by
  induction ops generalizing c with
  | nil =>
    cases done
    exact underway
  | cons op rest ih =>
    obtain ⟨permitted, answer, e, succeeded, done⟩ := afterPermitted?_cons done
    exact ih (underway.of_run permitted succeeded) done

/-- A fresh conductor that has something to start with gets under way when it is asked to run. -/
theorem underway_of_request [Engine] {spec : Spec} {parent input : Value} {g : Graph}
    {answer : Answer} (made : make spec parent input = .ok c) (rendered : c.errors = [])
    (composed : spec.compose = .ok g) (rooted : g.roots ≠ [])
    (done : Conducting.result (Operation.run (.request .running)) c = (.ok answer, d)) :
    d.Underway := by
  have grounded := grounded_make made rendered
  rcases make_eq_ok made with ⟨noted, some, rfl⟩ | ⟨context, g', -, composed', rfl⟩
  · exact absurd rendered some
  · cases composed'.symm.trans composed
    obtain ⟨_, _, done, same⟩ := Conducting.result_bind_eq_ok.mp done
    cases same
    obtain ⟨moves, requested⟩ := (requestStatus_runs _ .running).answer done
    refine ⟨Moves.grounded moves grounded,
      ⟨g, Moves.graph_eq moves rfl, Spec.drawn_compose composed⟩, ?_⟩
    refine requested.underway_of_unset ?_ grounded.indexed ?_
    · exact State.status_foldl_stageRoot g.roots _
    · exact State.hasReady_foldl_stageRoot g.roots _ (.inl rooted)

/-- The conductor never gets stuck. Whatever a host asks that keeps to the rules, a workflow that
goes on has a task that is active, can be started or waits for the host, and one that is to stop has
a task that is active. -/
theorem progressing_afterPermitted [Engine] {spec : Spec} {parent input : Value} {g : Graph}
    {ops : List Operation} (made : make spec parent input = .ok c) (rendered : c.errors = [])
    (composed : spec.compose = .ok g) (rooted : g.roots ≠ [])
    (done : c.afterPermitted? (.request .running :: ops) = some d) : d.state.Progressing := by
  obtain ⟨-, answer, e, requested, done⟩ := afterPermitted?_cons done
  have underway := underway_of_request made rendered composed rooted requested
  exact (underway.afterPermitted done).underway.progressing

/-- A task is started, the workflow is to pause, the task succeeds, and the workflow goes on. -/
def hostedOperations : List Operation :=
  [.update "first" 0 Sample.started, .request .paused, .update "first" 0 Sample.succeeded,
    .request .resuming]

theorem progressing_afterPermitted_sample : ∃ spec c g d,
    Spec.make .workflow Sample.workflow = .ok spec ∧ make spec .null .null = .ok c ∧ c.errors = [] ∧
    spec.compose = .ok g ∧ g.roots ≠ [] ∧
    c.afterPermitted? (.request .running :: hostedOperations) = some d ∧ d.state.Progressing := by
  obtain ⟨spec, c, specified, made, checked⟩ := exists_make_of_any (p := fun spec c =>
    c.errors.isEmpty && spec.compose.toOption.any (!·.roots.isEmpty) &&
      (c.afterPermitted? (.request .running :: hostedOperations)).isSome)
    (show (Spec.make .workflow Sample.workflow).toOption.any _ = true by decide +kernel)
  simp only [Bool.and_eq_true, List.isEmpty_iff] at checked
  obtain ⟨⟨rendered, composes⟩, hosted⟩ := checked
  obtain ⟨g, composed, roots⟩ := exists_of_any composes
  obtain ⟨d, done⟩ := Option.isSome_iff_exists.mp hosted
  have rooted : g.roots ≠ [] := by simpa using roots
  exact ⟨spec, c, g, d, specified, made, rendered, composed, rooted, done,
    progressing_afterPermitted made rendered composed rooted done⟩

end Conductor

end Orchestration
