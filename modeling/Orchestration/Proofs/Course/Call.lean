import Orchestration.Proofs.Course.Report
import Orchestration.Proofs.Course.Rerun

/-!
What a conductor that offers tasks or renders the output does to the sketch of its state, whether it
succeeds or fails.
-/

namespace Orchestration

open Relation (ReflTransGen)
open Conducting (Ends Runs)

namespace State

theorem status_of_begins {s t : State} (begins : ReflTransGen Begins s t) :
    t.status = s.status := by
  induction begins with
  | refl => rfl
  | tail _ begins ih =>
    cases begins
    exact ih

/-- A workflow that has failed tells nothing to its tasks when it is to fail. -/
theorem advance_of_active {s : State} {index : Nat} {entry : Entry}
    (found : s.sequence[index]? = some entry) (active : entry.hasStatus Status.active = true) :
    s.advance index (.workflow .failed) = .ok s := by
  have known : requireKnown (.workflow .failed) Signal.workflowSignals = .ok () := rfl
  have told : s.signalFor entry.task entry.route (.workflow .failed) =
      .ok (.about .workflow .failed .plain) := by
    refine bind_eq_ok.mpr ⟨(), known, congrArg Except.ok ?_⟩
    unfold requestSignal
    split <;> rfl
  have unmoved : ∀ status ∈ Status.active,
      Machine.Task.step status (.about .workflow .failed .plain) = .ok none := by
    intro status among
    simp only [Status.active, List.mem_cons, List.not_mem_nil, or_false] at among
    rcases among with rfl | rfl | rfl | rfl | rfl | rfl | rfl <;> rfl
  have after : s.statusAfter entry.task entry.route entry.status (.workflow .failed) = .ok none :=
    bind_eq_ok.mpr ⟨_, told, unmoved entry.status (by simpa [Entry.hasStatus] using active)⟩
  unfold advance
  rw [found]
  exact bind_eq_ok.mpr ⟨none, after, rfl⟩

theorem mem_entriesWith {s : State} {statuses : List Status} {latestOnly : Bool} {one : Nat × Entry}
    (mem : one ∈ s.entriesWith statuses latestOnly) :
    s.sequence[one.1]? = some one.2 ∧ one.2.hasStatus statuses = true := by
  have among : one ∈ s.numbered.filter fun one => one.2.hasStatus statuses := by
    unfold entriesWith restrict at mem
    split at mem
    · exact List.mem_of_mem_filter mem
    · exact mem
  obtain ⟨inNumbered, has⟩ := List.mem_filter.mp among
  obtain ⟨⟨e, i⟩, inZip, rfl⟩ := List.mem_map.mp inNumbered
  exact ⟨List.mk_mem_zipIdx_iff_getElem?.mp inZip, has⟩

end State

namespace Conductor

variable {c : Conductor}

/-! ### Offers -/

theorem limitItems_ends (c : Conductor) (o : Offer) : Ends (limitItems o) c
    (fun o' d => ReflTransGen State.Begins c.state.sketch d.state.sketch ∧ o'.task = o.task ∧
      o'.route = o.route) (fun d => ReflTransGen State.Begins c.state.sketch d.state.sketch) := by
  unfold limitItems
  split
  · exact .pure ⟨.refl, rfl, rfl⟩
  case h_2 count concurrency _ =>
    refine .bind_modifyState _ ?_
    have begins : State.Begins c.state.sketch (c.state.updateStaged o.task o.route fun t =>
        if (t.items.getD []).isEmpty then { t with items := some (List.replicate count .unset) }
          else t).sketch := by
      rw [State.sketch_updateStaged (g := fun t =>
        if (t.items.getD []).isEmpty
          then { t with items := some (List.replicate count .unset) } else t)]
      · exact .begin o.task o.route count
      · intro t
        change (if (t.items.getD []).isEmpty = true then _ else _ : Staged).sketch =
          if (t.items.getD []).isEmpty = true then _ else _
        split <;> rfl
    exact .bind_getState (.bind_ofExcept (fun _ _ => .single begins) fun _ _ =>
      .pure ⟨.single begins, rfl, rfl⟩)

theorem retryDelay_eq_ok {t : Staged} {o o' : Offer} (delayed : retryDelay t o = .ok o') :
    ∃ delay, o' = { o with delay := delay } := by
  unfold retryDelay at delayed
  split at delayed <;> exact ⟨_, (Except.ok.inj delayed).symm⟩

theorem offerStaged_ends [Engine] (grounded : c.state.Grounded) (t : Staged) :
    Ends (offerStaged t) c (fun o d => ReflTransGen State.Begins c.state.sketch d.state.sketch ∧
      o.task = t.task ∧ o.route = t.route)
    (fun d => ReflTransGen State.Begins c.state.sketch d.state.sketch) := by
  unfold offerStaged
  refine .bind_quietly (offer_runs grounded t.task t.route) (fun d same => same ▸ .refl)
    fun o d _ same named => ?_
  have limits := limitItems_ends d o
  rw [same, named.1, named.2] at limits
  refine .bind limits fun o' e begins => .ofExcept _ (fun offered delayed => ⟨begins.1, ?_⟩)
    fun _ _ => begins.1
  obtain ⟨delay, rfl⟩ := retryDelay_eq_ok delayed
  exact begins.2

theorem offerAll_ends [Engine] (grounded : c.state.Grounded) (staged : List Staged) :
    Ends (offerAll staged) c
    (fun answer d => ReflTransGen State.Begins c.state.sketch d.state.sketch ∧
      ∀ o ∈ answer.1, ∃ t ∈ staged, o.task = t.task ∧ o.route = t.route) (fun _ => False) := by
  induction staged generalizing c with
  | nil => exact .pure ⟨.refl, fun o mem => by cases mem⟩
  | cons t rest ih =>
    rw [offerAll_cons]
    have tried : Ends (attempt t) c
        (fun found d => ReflTransGen State.Begins c.state.sketch d.state.sketch ∧
          ∀ o ∈ found.getD [], o.task = t.task ∧ o.route = t.route) (fun _ => False) := by
      refine .tryCatch (.bind (offerStaged_ends grounded t) fun o d offered =>
        .pure ⟨offered.1, ?_⟩) fun e d begins => ?_
      · intro o' mem
        rw [Option.getD_some] at mem
        split at mem
        · rw [List.mem_singleton.mp mem]
          exact offered.2
        · cases mem
      · have logged := result_logError e (.ofTask t.task t.route) d
        exact .bind_of_result logged (.pure ⟨begins, fun o mem => by cases mem⟩)
    refine .bind (tried.with_moves (attempt_runs grounded t).moved) ?_
    rintro found d ⟨moves, -, begins, own⟩
    refine .bind (ih (moves.grounded grounded)) fun others e more => ?_
    have all : ∀ o ∈ found.getD [] ++ others.1, ∃ x ∈ t :: rest, o.task = x.task ∧
        o.route = x.route := by
      intro o mem
      rcases List.mem_append.mp mem with first | later
      · exact ⟨t, List.mem_cons_self .., own o first⟩
      · obtain ⟨x, among, same⟩ := more.2 o later
        exact ⟨x, List.mem_cons_of_mem _ among, same⟩
    cases found with
    | none => exact .pure ⟨begins.trans more.1, all⟩
    | some new => exact .pure ⟨begins.trans more.1, all⟩

theorem nextTasks_offered [Engine] (grounded : c.state.Grounded) :
    State.Offered c.state.sketch (Conducting.after nextTasks c).state.sketch := by
  suffices Ends nextTasks c (fun _ d => State.Offered c.state.sketch d.state.sketch)
      (fun d => State.Offered c.state.sketch d.state.sketch) from this.after (fun _ _ left => left)
      fun _ left => left
  unfold nextTasks
  refine .bind_getState ?_
  dsimp only
  generalize (if (c.state.status == .failed) = true then c.state.ready.filter
    (·.runOnFail) else []) = remedies
  split
  · exact .pure ⟨_, .refl, .inl rfl⟩
  · refine .bind ((offerAll_ends grounded _).orIll fun _ never => never.elim) ?_
    rintro answer d ⟨begins, -⟩
    split
    · refine .bind ((fail_ends d).orIll fun e same => ⟨_, begins, .inl same⟩) ?_
      exact fun _ e failed => .pure ⟨_, begins, .inr failed⟩
    · exact .pure ⟨_, begins, .inl rfl⟩

/-- A workflow that can fail, or has failed, fails when it is asked to. Nothing else changes. -/
theorem result_requestFailed (answer : Option Status)
    (led : Machine.Workflow.step c.state.status (.about .workflow .failed .plain) = .ok answer)
    (fails : answer.getD c.state.status = .failed) :
    Conducting.result (requestStatus .failed) c =
      (.ok (), { c with state := { c.state with status := .failed } }) := by
  suffices Ends (requestStatus .failed) c
      (fun _ d => d = { c with state := { c.state with status := .failed } }) (fun _ => False) by
    obtain ⟨_, _, found, rfl⟩ := this.exists_answer
    exact found
  unfold requestStatus
  refine .bind_getState (.bind_getState ?_)
  dsimp only
  refine .bind (.forM (fun rest d => d = c ∧ rest ⊆ c.state.entriesWith Status.active true)
    ⟨rfl, List.Subset.refl _⟩ ?_) ?_
  · rintro one rest _ ⟨rfl, among⟩
    obtain ⟨there, active⟩ := State.mem_entriesWith (among (List.mem_cons_self ..))
    have told := State.advance_of_active there active
    unfold tryState
    refine .bind_getState (.bind_ofExcept (fun e impossible => ?_) fun t advanced =>
      .of_modifyState _ ?_)
    · cases told.symm.trans impossible
    · cases told.symm.trans advanced
      exact ⟨rfl, fun other later => among (List.mem_cons_of_mem _ later)⟩
  rintro _ c ⟨rfl, -⟩
  have signal := State.requestSignal_of_plain c.state .failed rfl (by decide) (by decide)
  have followed : Ends (follow (.workflow .failed)) c
      (fun _ d => d = { c with state := { c.state with status := .failed } }) (fun _ => False) := by
    change Ends (followRequest (.workflow .failed)) c _ _
    unfold followRequest requireKnown
    refine .bind_getState ?_
    dsimp only
    rw [signal, if_neg (by decide), led]
    refine .bind_of_result (Conducting.result_pure () c)
      (.bind_of_result (Conducting.result_ofExcept (.ok answer) c) ?_)
    cases answer with
    | none => exact .pure (fails ▸ rfl)
    | some new =>
      cases (fails : new = .failed)
      exact .of_modifyState _ rfl
  refine .bind followed ?_
  rintro _ _ rfl
  refine .bind_getState ?_
  rw [if_neg]
  · exact .pure rfl
  · by_cases same : c.state.status = .failed <;> simp [same]

/-! ### Output -/

/-- The status may have changed, and nothing else of the sketch. -/
def Restates (c d : Conductor) : Prop :=
  ∃ word, d.state.sketch = { c.state.sketch with status := word }

theorem Quietly.restates {d : Conductor} (quietly : Quietly c d) : Restates c d :=
  ⟨c.state.status, quietly.sketch_eq⟩

instance : Std.Refl Restates := ⟨fun c => ⟨c.state.status, rfl⟩⟩

instance : IsTrans Conductor Restates where
  trans _ _ _ first second := by
    obtain ⟨_, first⟩ := first
    obtain ⟨word, second⟩ := second
    exact ⟨word, by rw [second, first]⟩

/-- To render the output may make the workflow fail, and changes nothing else. -/
theorem renderOutput_restates [Engine] (grounded : c.state.sequence ≠ [] → c.state.Grounded) :
    Restates c (Conducting.after renderOutput c) := by
  have quiet {α : Type} {m : Conducting α} {d : Conductor} {expected : α → Conductor → Prop}
      (runs : Runs Quietly m d expected) : Runs Restates m d expected := ⟨runs.1.restates, runs.2⟩
  have fails (d : Conductor) : Runs Restates (requestStatus .failed) d fun _ _ => True := by
    refine ⟨(fail_ends d).after ?_ ?_, fun _ _ _ => trivial⟩
    · exact fun _ e failed => ⟨.failed, failed⟩
    · exact fun e same => ⟨d.state.status, same⟩
  suffices Runs Restates renderOutput c fun _ _ => True from this.kept
  unfold renderOutput
  refine .bind_getState (.bind_get ?_)
  dsimp only
  split
  · refine .bind (quiet (terminalContext_runs grounded)) fun context d _ _ => ?_
    refine .bind (quiet (withState_runs d context)) fun shown d _ _ =>
      .bind_get (.bind_ofExcept fun rendered _ => ?_)
    have noted (e : Conductor) : Runs Restates (do
        if !rendered.errors.isEmpty then
          logErrors rendered.errors .nothing
          if !keepsStatus.contains c.state.status then requestStatus .failed) e
            fun _ _ => True := by
      split
      · refine .bind (quiet (logErrors_runs e rendered.errors _)) fun _ e' _ _ => ?_
        split
        · exact fails e'
        · exact .pure trivial
      · exact .pure trivial
    split
    · exact .bind_modify _ ⟨d.state.status, rfl⟩ (noted _)
    · exact noted d
  · exact .pure trivial

end Conductor

end Orchestration
