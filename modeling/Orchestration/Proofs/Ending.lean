import Orchestration.Expression.Engine
import Orchestration.Proofs.Course.Call
import Orchestration.Proofs.Operation
import Orchestration.Proofs.Remedies

/-!
Workflows that have ended.

Whatever a host asks short of a rerun, a workflow that has failed or has been canceled stays so, one
that has succeeded can only fail, and one that is to be canceled can only be canceled or fail.
Nothing is started any more, but in a workflow that has failed those tasks to which a task went on
that also went on to `fail`.
-/

namespace Orchestration

open Machine.Workflow (MayCome prospects? mayCome_self mayCome_of_step)

/-! ### Statuses -/

namespace State

theorem Move.mayCome {s t : State} (move : Move s t) : MayCome s.status t.status := by
  cases move with
  | quiet quiet =>
    rw [← status_outline t, quiet.outline_eq]
    exact mayCome_self s.status
  | become signal new led => exact (mayCome_of_step led).1
  | fail signal led leads completed => exact (mayCome_of_step leads).2 completed
  | unstage task route =>
    rw [status_unstage]
    exact mayCome_self s.status
  | branch | advance | note | close | add | stage | restage | rerun => exact mayCome_self s.status

end State

namespace Conductor

variable {c d : Conductor}

theorem Moves.mayCome (moves : Moves c d) : MayCome c.state.status d.state.status :=
  moves.keepState (fun s => MayCome c.state.status s.status)
    (fun _ _ move mayCome => mayCome.trans move.mayCome) (mayCome_self _)

theorem Moves.failed (moves : Moves c d) (failed : c.state.status = .failed) :
    d.state.status = .failed := by
  have mayCome := moves.mayCome
  rw [failed] at mayCome
  exact List.mem_singleton.mp (mayCome _ rfl)

/-! ### Conductors -/

structure Charted (c : Conductor) : Prop where
  grounded : c.state.Grounded
  drawn : ∃ g, c.graph? = some g ∧ g.Drawn

/-- A conductor whose workflow failed before anything was staged. -/
structure Stillborn (c : Conductor) : Prop where
  status : c.state.status = .failed
  sequence : c.state.sequence = []
  staged : c.state.staged = []
  tasks : c.state.tasks = []

theorem charted_or_stillborn [Engine] {spec : Spec} {parent input : Value}
    (made : make spec parent input = .ok c) : c.Charted ∨ c.Stillborn := by
  rcases make_eq_ok made with ⟨noted, -, rfl⟩ | ⟨context, g, found, composed, rfl⟩
  · exact .inr ⟨rfl, rfl, rfl, rfl⟩
  · exact .inl ⟨State.grounded_opened (positive_startContext found) g.roots, g, rfl,
      Spec.drawn_compose composed⟩

theorem Charted.of_moves (charted : c.Charted) (moves : Moves c d) : d.Charted := by
  obtain ⟨g, known, drawn⟩ := charted.drawn
  exact ⟨moves.grounded charted.grounded, g, moves.graph_eq known, drawn⟩

theorem Charted.reload (charted : c.Charted) :
    (Conducting.after reload c).Charted ∧
      (Conducting.after reload c).state.sketch = c.state.sketch := by
  obtain ⟨g, known, drawn⟩ := charted.drawn
  rcases reload_cases charted.grounded.toSound with
    ⟨e, d, found, charts⟩ | ⟨charted', g', read, d, charts, knownThen, found, readGraph,
      knownNow, same⟩
  · rw [Conducting.after_eq found, charts.eq_of_graph known]
    exact ⟨charted, rfl⟩
  · rw [Conducting.after_eq found]
    cases charts.eq_of_graph known
    cases known.symm.trans knownThen
    obtain ⟨f, -, redrawn⟩ := Graph.deserialize_serialize drawn
    cases redrawn.symm.trans readGraph
    refine ⟨⟨same ▸ State.grounded_reread charted.grounded, _, knownNow, drawn.redrawn f⟩, ?_⟩
    rw [same, State.sketch_reread]

variable {op : Operation} {task : String} {route : Nat}

theorem Charted.apply [Engine] (charted : c.Charted) (host : op.isRerun = false) :
    (op.apply c).Charted ∧ MayCome c.state.status (op.apply c).state.status := by
  rcases Operation.apply_cases charted.grounded op with rfl | ⟨d, moves, same | ⟨rerun, -⟩⟩
  · rw [Operation.apply, Operation.run, Conducting.after_bind_pure]
    refine ⟨charted.reload.1, ?_⟩
    rw [← State.status_sketch (Conducting.after Conductor.reload c).state, charted.reload.2]
    exact mayCome_self _
  · rw [same]
    exact ⟨charted.of_moves moves, moves.mayCome⟩
  · cases host.symm.trans rerun

/-- A call marks nothing, unless it is a report of a task that is completed by it and goes on to
`fail` and to what is marked. -/
theorem Charted.runsOnFail_apply [Engine] (charted : c.Charted) (host : op.isRerun = false)
    (marked : (op.apply c).state.RunsOnFail task route) :
    c.state.RunsOnFail task route ∨ ∃ source way report, op = .update source way report ∧
      State.Remedies c.state (op.apply c).state source way task := by
  have inherited (inherits : State.Inherits c.state.sketch (op.apply c).state.sketch) :
      c.state.RunsOnFail task route :=
    State.runsOnFail_sketch.mp (inherits.marked task route (State.runsOnFail_sketch.mpr marked))
  cases op with
  | request status =>
    refine .inl (inherited ?_)
    rw [Operation.apply, Operation.run, Conducting.after_bind_pure]
    exact (requestStatus_ends c status).after (fun _ _ asked => asked.inherits) fun _ tells =>
      State.inherits_of_tells tells
  | next =>
    refine .inl (inherited ?_)
    rw [Operation.apply, Operation.run, Conducting.after_bind_pure]
    exact (nextTasks_offered charted.grounded).inherits
  | update source way report =>
    obtain ⟨g, known, drawn⟩ := charted.drawn
    have updates := updates_after updateDepth source way charted.grounded report.known known
    rw [Operation.apply, Operation.run, Conducting.after_bind_pure] at marked ⊢
    rcases updates.runsOnFail drawn (State.runsOnFail_sketch.mpr marked) with before | remedies
    · exact .inl (State.runsOnFail_sketch.mp before)
    · exact .inr ⟨source, way, report, rfl, remedies.of_sketch⟩
  | rerun => cases host
  | render =>
    refine .inl (inherited ?_)
    rw [Operation.apply, Operation.run, Conducting.after_bind_pure]
    obtain ⟨word, same⟩ := renderOutput_restates fun _ => charted.grounded
    rw [same]
    exact .of_staged rfl
  | reload =>
    refine .inl (inherited ?_)
    rw [Operation.apply, Operation.run, Conducting.after_bind_pure, charted.reload.2]
    exact .refl _

/-! ### Workflows that could not be started -/

theorem Stillborn.of_sketch (stillborn : c.Stillborn) (word : Status)
    (same : d.state.sketch = { c.state.sketch with status := word })
    (failed : d.state.status = .failed) : d.Stillborn where
  status := failed
  sequence := by
    have kept : d.state.sequence.map Entry.outline = c.state.sequence.map Entry.outline :=
      congrArg State.sequence same
    rw [stillborn.sequence] at kept
    exact List.map_eq_nil_iff.mp kept
  staged := by
    have kept : d.state.staged.map Staged.sketch = c.state.staged.map Staged.sketch :=
      congrArg State.staged same
    rw [stillborn.staged] at kept
    exact List.map_eq_nil_iff.mp kept
  tasks := by
    rw [← State.tasks_sketch d.state, same]
    exact stillborn.tasks

theorem Stillborn.of_state (stillborn : c.Stillborn) (same : d.state = c.state) : d.Stillborn :=
  stillborn.of_sketch c.state.status (by rw [same]; rfl) (same ▸ stillborn.status)

theorem Stillborn.sound (stillborn : c.Stillborn) : c.state.Sound where
  named := by
    rw [stillborn.tasks]
    exact List.nodup_nil
  entries e mem := by
    rw [stillborn.sequence] at mem
    cases mem
  staged t mem := by
    rw [stillborn.staged] at mem
    cases mem
  status := .inr (by rw [stillborn.status]; rfl)

theorem Stillborn.update [Engine] (stillborn : c.Stillborn) (task : String)
    (route : Nat) (e : Event) :
    Conducting.Runs Charts (update task route e) c fun _ _ => False := by
  have refused (d : Conductor) (same : d.state = c.state) :
      Conducting.Runs Charts (receive task route e) d fun _ _ => False := by
    have nowhere : d.state.staged? task route = none := by
      rw [State.staged?, same, stillborn.staged]
      rfl
    have never : d.state.latest? task route = none := by
      rw [State.latest?, same, stillborn.sequence]
      cases State.index? c.state task route <;> rfl
    unfold receive
    refine .bind_getState (.bind_getState ?_)
    rw [nowhere, never]
    exact .bind (.throw _) fun _ _ _ (never : False) => never.elim
  unfold Conductor.update updateDepth updateWithin
  refine .bind (requireTask_runs c task) fun _ d charts _ => ?_
  refine .bind (taskSpec_runs d task) fun spec e _ same => ?_
  subst same
  exact .bind (refused e charts.state_eq) fun _ _ _ (never : False) => never.elim

theorem Stillborn.request (stillborn : c.Stillborn) (status : Status) :
    (Conducting.after (requestStatus status) c).Stillborn := by
  have unmoved {told : State}
      (tells : Relation.ReflTransGen (State.Tells status) c.state.sketch told) :
      told = c.state.sketch := by
    refine (Relation.ReflTransGen.cases_head tells).elim Eq.symm ?_
    rintro ⟨middle, ⟨index, entry, -, -, found, -⟩, -⟩
    rw [State.getElem?_sketch, stillborn.sequence] at found
    cases found
  have failed : (Conducting.after (requestStatus status) c).state.status = .failed :=
    (requestStatus_runs c status).kept.failed stillborn.status
  have asked : ∃ word, (Conducting.after (requestStatus status) c).state.sketch =
      { c.state.sketch with status := word } := by
    have ends : Conducting.Ends (requestStatus status) c
        (fun _ d => ∃ word, d.state.sketch = { c.state.sketch with status := word })
        (fun d => ∃ word, d.state.sketch = { c.state.sketch with status := word }) := by
      refine (requestStatus_ends c status).weaken ?_ fun d tells => ⟨c.state.status, unmoved tells⟩
      rintro _ d ⟨told, word, tells, same⟩
      exact ⟨word, unmoved tells ▸ same⟩
    exact ends.after (fun _ _ asked => asked) fun _ asked => asked
  obtain ⟨word, same⟩ := asked
  exact stillborn.of_sketch word same failed

theorem Stillborn.reload (stillborn : c.Stillborn) : (Conducting.after reload c).Stillborn := by
  rcases reload_cases stillborn.sound
    with ⟨e, d, found, charts⟩ | ⟨_, _, _, d, -, -, found, -, -, same⟩
  · rw [Conducting.after_eq found]
    exact stillborn.of_state charts.state_eq
  · rw [Conducting.after_eq found]
    refine stillborn.of_sketch c.state.status ?_ ?_
    · rw [same, State.sketch_reread]
      rfl
    · rw [same]
      exact stillborn.status

theorem Stillborn.apply [Engine] (stillborn : c.Stillborn) (host : op.isRerun = false) :
    (op.apply c).Stillborn := by
  unfold Operation.apply
  cases op with
  | request status =>
    rw [Operation.run, Conducting.after_bind_pure]
    exact stillborn.request status
  | next =>
    have nothing : c.state.ready = [] := by
      rw [State.ready, stillborn.staged]
      rfl
    have stays : Conducting.Ends nextTasks c (fun _ d => d = c) fun _ => False := by
      unfold nextTasks
      refine .bind_getState ?_
      rw [nothing, stillborn.status]
      exact .pure rfl
    rw [Operation.run, Conducting.after_bind_pure]
    exact stays.after (fun _ d same => same ▸ stillborn) fun _ never => never.elim
  | update task route report =>
    rw [Operation.run, Conducting.after_bind_pure]
    exact stillborn.of_state (stillborn.update task route report.event).kept.state_eq
  | rerun => cases host
  | render =>
    rw [Operation.run, Conducting.after_bind_pure]
    have grounded : c.state.sequence ≠ [] → c.state.Grounded :=
      fun some => (some stillborn.sequence).elim
    obtain ⟨word, same⟩ := renderOutput_restates grounded
    exact stillborn.of_sketch word same ((renderOutput_runs grounded).kept.failed stillborn.status)
  | reload =>
    rw [Operation.run, Conducting.after_bind_pure]
    exact stillborn.reload

/-! ### Offers -/

theorem isUnderWay_of_prospects {status : Status} (ended : prospects? status ≠ none) :
    status.isUnderWay = false := by
  cases status <;> first | rfl | exact (ended rfl).elim

/-- A workflow that has ended, or is to be canceled, offers nothing but tasks that are to be started
even when it has failed. -/
theorem nextTasks_ends [Engine] (grounded : c.state.staged ≠ [] → c.state.Grounded)
    (ended : prospects? c.state.status ≠ none) : Conducting.Ends nextTasks c
      (fun offers _ => ∀ o ∈ offers, c.state.status = .failed ∧ c.state.RunsOnFail o.task o.route)
      (fun _ => False) := by
  have remedies :
      ∀ t ∈ (if (c.state.status == .failed) = true then c.state.ready.filter (·.runOnFail) else []),
      c.state.status = .failed ∧ t ∈ c.state.staged ∧ t.runOnFail = true := by
    intro t mem
    split at mem
    case isTrue failed =>
      obtain ⟨ready, marked⟩ := List.mem_filter.mp mem
      exact ⟨eq_of_beq failed, List.mem_of_mem_filter ready, marked⟩
    case isFalse => cases mem
  unfold nextTasks
  refine .bind_getState ?_
  dsimp only
  revert remedies
  generalize (if (c.state.status == .failed) = true then c.state.ready.filter
    (·.runOnFail) else []) = remedies
  intro marked
  cases remedies with
  | nil =>
    rw [isUnderWay_of_prospects ended]
    exact .pure fun o mem => by cases mem
  | cons first rest =>
    obtain ⟨failed, inStaged, -⟩ := marked first List.mem_cons_self
    rw [List.isEmpty_cons, Bool.and_false, if_neg Bool.false_ne_true, if_neg Bool.false_ne_true]
    have grounded := grounded (List.ne_nil_of_mem inStaged)
    refine .bind (offerAll_ends grounded (first :: rest)) ?_
    rintro answer d ⟨begins, offered⟩
    have stillFailed : d.state.status = .failed := (State.status_of_begins begins).trans failed
    split
    · have fails := result_requestFailed none (by rw [stillFailed]; rfl) stillFailed
      exact .bind_of_result fails (.pure fun o mem => by cases mem)
    · refine .pure fun o mem => ⟨failed, ?_⟩
      obtain ⟨t, among, task, route⟩ := offered o (List.mem_mergeSort.mp mem)
      obtain ⟨-, inStaged, runOnFail⟩ := marked t among
      exact ⟨t, inStaged, by simp [Staged.isAt, task, route], runOnFail⟩

/-! ### Runs -/

theorem afterAll_append [Engine] (c : Conductor) (ops more : List Operation) :
    c.afterAll (ops ++ more) = (c.afterAll ops).afterAll more := List.foldl_append

theorem Charted.afterAll [Engine] {ops : List Operation} (charted : c.Charted)
    (host : ∀ op ∈ ops, op.isRerun = false) :
    (c.afterAll ops).Charted ∧ MayCome c.state.status (c.afterAll ops).state.status := by
  induction ops generalizing c with
  | nil => exact ⟨charted, mayCome_self _⟩
  | cons op rest ih =>
    obtain ⟨chartedNext, mayCome⟩ := charted.apply (host op List.mem_cons_self)
    obtain ⟨chartedLast, mayComeLast⟩ :=
      ih chartedNext fun op inRest => host op (List.mem_cons_of_mem _ inRest)
    exact ⟨chartedLast, mayCome.trans mayComeLast⟩

theorem Stillborn.afterAll [Engine] {ops : List Operation} (stillborn : c.Stillborn)
    (host : ∀ op ∈ ops, op.isRerun = false) : (c.afterAll ops).Stillborn := by
  induction ops generalizing c with
  | nil => exact stillborn
  | cons op rest ih =>
    exact ih (stillborn.apply (host op List.mem_cons_self)) fun op inRest =>
      host op (List.mem_cons_of_mem _ inRest)

/-- Among some operations is a report by which a task was completed, and went on to `fail` and to
another task. Since then, and not before, that other task is to be started even when the workflow
has failed. -/
def RemediedBy [Engine] (c : Conductor) (ops : List Operation) (task : String)
    (route : Nat) : Prop :=
  ∃ earlier source way report later, ops = earlier ++ .update source way report :: later ∧
    ¬(c.afterAll earlier).state.RunsOnFail task route ∧
    State.Remedies (c.afterAll earlier).state
    (c.afterAll (earlier ++ [.update source way report])).state source way task ∧
    ∀ between, between <+: later →
      (c.afterAll (earlier ++ .update source way report :: between)).state.RunsOnFail task route

theorem Charted.remediedBy [Engine] {ops : List Operation} (charted : c.Charted)
    (host : ∀ op ∈ ops, op.isRerun = false) (unmarked : ¬c.state.RunsOnFail task route)
    (marked : (c.afterAll ops).state.RunsOnFail task route) : c.RemediedBy ops task route := by
  induction ops using List.reverseRecOn with
  | nil => exact (unmarked marked).elim
  | append_singleton ops op ih =>
    have hostBefore : ∀ op ∈ ops, op.isRerun = false :=
      fun op among => host op (List.mem_append_left _ among)
    have hostNow : op.isRerun = false :=
      host op (List.mem_append_right _ (List.mem_singleton_self op))
    by_cases before : (c.afterAll ops).state.RunsOnFail task route
    case pos =>
      obtain ⟨earlier, source, way, report, later, rfl, new, remedies, since⟩ :=
        ih hostBefore before
      refine ⟨earlier, source, way, report, later ++ [op], by simp, new, remedies,
        fun between starts => ?_⟩
      rcases List.prefix_concat_iff.mp starts with rfl | within
      · simpa using marked
      · exact since between within
    case neg =>
      rw [afterAll_append] at marked
      rcases (charted.afterAll hostBefore).1.runsOnFail_apply hostNow marked with
        already | ⟨source, way, report, rfl, remedies⟩
      · exact (before already).elim
      · refine ⟨ops, source, way, report, [], rfl, before, ?_, fun between starts => ?_⟩
        · rw [afterAll_append]
          exact remedies
        · rw [List.prefix_nil.mp starts, afterAll_append]
          exact marked

theorem unmarked_make [Engine] {spec : Spec} {parent input : Value}
    (made : make spec parent input = .ok c) (task : String) (route : Nat) :
    ¬c.state.RunsOnFail task route := by
  have staged (roots : List Vertex) (s : State) :
      State.Inherits s (roots.foldl State.stageRoot s) := by
    induction roots generalizing s with
    | nil => exact .refl s
    | cons v rest ih =>
      refine State.Inherits.trans ?_ (ih (s.stageRoot v))
      exact State.Inherits.trans (t := { s with nextMark := s.nextMark + 2 }) (.of_staged rfl)
        (State.inherits_stage ..)
  intro marked
  rcases make_eq_ok made with ⟨noted, -, rfl⟩ | ⟨context, g, -, -, rfl⟩
  · obtain ⟨x, inStaged, -⟩ := marked
    cases inStaged
  · obtain ⟨x, inStaged, -⟩ := (staged g.roots _).marked task route marked
    cases inStaged

/-- Statuses in which a workflow has ended are not left. Whatever a host asks, but a rerun, a
workflow that has failed or has been canceled stays so, one that has succeeded only fails, and one
that is to be canceled is only canceled or fails. Then nothing is offered, except that a workflow
that has failed offers tasks to which a task went on, when it was completed, that also went on to
`fail`. -/
theorem ended_afterAll [Engine] {spec : Spec} {parent input : Value} {ops more : List Operation}
    (made : make spec parent input = .ok c) (host : ∀ op ∈ ops ++ more, op.isRerun = false) :
    MayCome (c.afterAll ops).state.status (c.afterAll (ops ++ more)).state.status ∧
    (prospects? (c.afterAll ops).state.status ≠ none → ∃ offers d,
      Conducting.result nextTasks (c.afterAll ops) = (.ok offers, d) ∧
      ∀ o ∈ offers, (c.afterAll ops).state.status = .failed ∧ c.RemediedBy ops o.task o.route) := by
  have hostBefore : ∀ op ∈ ops, op.isRerun = false :=
    fun op among => host op (List.mem_append_left _ among)
  have hostAfter : ∀ op ∈ more, op.isRerun = false :=
    fun op among => host op (List.mem_append_right _ among)
  have unmarked := unmarked_make made
  rw [afterAll_append]
  rcases charted_or_stillborn made with charted | stillborn
  · have chartedNow := (charted.afterAll hostBefore).1
    refine ⟨(chartedNow.afterAll hostAfter).2, fun ended => ?_⟩
    obtain ⟨offers, d, answered, offered⟩ :=
      (nextTasks_ends (fun _ => chartedNow.grounded) ended).exists_answer
    refine ⟨offers, d, answered, fun o mem => ⟨(offered o mem).1, ?_⟩⟩
    exact charted.remediedBy hostBefore (unmarked _ _) (offered o mem).2
  · have stillbornNow := stillborn.afterAll hostBefore
    constructor
    · rw [stillbornNow.status, (stillbornNow.afterAll hostAfter).status]
      exact mayCome_self .failed
    · intro ended
      obtain ⟨offers, d, answered, offered⟩ :=
        (nextTasks_ends (fun some => (some stillbornNow.staged).elim) ended).exists_answer
      refine ⟨offers, d, answered, fun o mem => ?_⟩
      obtain ⟨-, x, inStaged, -⟩ := offered o mem
      rw [stillbornNow.staged] at inStaged
      cases inStaged

/-- A task is started, the workflow is to be canceled, and it is asked to run again. -/
def canceledOperations : List Operation :=
  [.request .running, .update "first" 0 Sample.started, .request .canceled, .request .running]

theorem ended_afterAll_sample : ∃ spec c, Spec.make .workflow Sample.workflow = .ok spec ∧
    make spec .null .null = .ok c ∧
    (∀ op ∈ canceledOperations ++ [.update "first" 0 Sample.succeeded], op.isRerun = false) ∧
    (c.afterAll canceledOperations).state.status = .canceling ∧
    (c.afterAll (canceledOperations ++ [.update "first" 0 Sample.succeeded])).state.status ∈
      [Status.canceling, .canceled, .failed] ∧
    ∃ d, Conducting.result nextTasks (c.afterAll canceledOperations) = (.ok [], d) := by
  obtain ⟨spec, c, specified, made, canceling⟩ := exists_make_of_any (p := fun _ c =>
    (c.afterAll canceledOperations).state.status == .canceling)
    (show (Spec.make .workflow Sample.workflow).toOption.any _ = true by decide +kernel)
  have status : (c.afterAll canceledOperations).state.status = .canceling := eq_of_beq canceling
  have host : ∀ op ∈ canceledOperations ++ [.update "first" 0 Sample.succeeded],
      op.isRerun = false := by
    simp [canceledOperations, Operation.isRerun]
  obtain ⟨mayCome, offers⟩ := ended_afterAll made host
  rw [status] at mayCome offers
  obtain ⟨offers, d, answered, none⟩ := offers (by decide)
  have nothing : offers = [] :=
    List.eq_nil_iff_forall_not_mem.mpr fun o mem => by cases (none o mem).1
  exact ⟨spec, c, specified, made, host, status, mayCome _ rfl, d, nothing ▸ answered⟩

end Conductor

end Orchestration
