import Orchestration.Proofs.Course.Basic
import Orchestration.Proofs.Reporting

/-!
The course of a conductor that follows its tasks and its host.

To find out what surrounds a task nothing is done but to compose the graph. The status of the
workflow changes as its machine says; only a workflow that comes to be completed fails without being
told to.
-/

namespace Orchestration

open Relation (ReflTransGen)
open Conducting (Runs)

namespace State

variable {s t : State} {task : String} {route index : Nat} {e : Event} {status : Status}

theorem advance_eq_ok {entry : Entry}
    (found : s.sequence[index]? = some entry) (advanced : s.advance index e = .ok t) :
    ∃ signal answer, s.signalFor entry.task entry.route e = .ok signal ∧
      Machine.Task.step entry.status signal = .ok answer ∧
      t = (answer.map fun new => s.updateEntry index fun entry =>
        { entry with status := new }).getD s := by
  unfold State.advance at advanced
  rw [found] at advanced
  obtain ⟨answer, led, advanced⟩ := bind_eq_ok.mp advanced
  obtain ⟨signal, told, led⟩ := bind_eq_ok.mp led
  refine ⟨signal, answer, told, led, ?_⟩
  cases answer with
  | none => exact (Except.ok.inj advanced).symm
  | some new => exact (Except.ok.inj advanced).symm

theorem change_of_advance (advanced : s.advance index e = .ok t) :
    t = s ∨ ∃ entry signal new, s.sequence[index]? = some entry ∧
      s.signalFor entry.task entry.route e = .ok signal ∧
      Machine.Task.step entry.status signal = .ok (some new) ∧
      t = s.updateEntry index fun entry => { entry with status := new } := by
  cases found : s.sequence[index]? with
  | none =>
    unfold State.advance at advanced
    rw [found] at advanced
    exact .inl (Except.ok.inj advanced).symm
  | some entry =>
    obtain ⟨signal, answer, told, led, changed⟩ := advance_eq_ok found advanced
    cases answer with
    | none => exact .inl changed
    | some new => exact .inr ⟨entry, signal, new, rfl, told, led, changed⟩

theorem signalFor_workflow {signal : Signal}
    (told : s.signalFor task route (.workflow status) = .ok signal) :
    ∃ scope, signal = .about .workflow status scope := by
  obtain ⟨_, -, told⟩ := bind_eq_ok.mp told
  cases Except.ok.inj told
  unfold State.requestSignal
  split
  · split
    · exact ⟨_, rfl⟩
    · exact ⟨_, rfl⟩
  · exact ⟨_, rfl⟩

theorem signalFor_command {command : Command} {signal : Signal}
    (told : s.signalFor task route (.command command) = .ok signal) :
    signal = .command command := by
  obtain ⟨_, -, told⟩ := bind_eq_ok.mp told
  exact (Except.ok.inj told).symm

theorem tells_of_advance (advanced : s.advance index (.workflow status) = .ok t) :
    t = s ∨ Tells status s t := by
  rcases change_of_advance advanced with same | ⟨entry, signal, new, found, told, led, changed⟩
  · exact .inl same
  · obtain ⟨scope, rfl⟩ := signalFor_workflow told
    exact .inr ⟨index, entry, scope, new, found, led, changed⟩

end State

namespace Conductor

variable {c : Conductor}

/-! ### What surrounds a task -/

theorem inbound_runs (c : Conductor) (task : String) (route : Nat) :
    Runs Charts (inbound task route) c fun answer d =>
      ∃ g, d.graph? = some g ∧ inboundIn g c.state task route = .ok answer := by
  unfold inbound
  refine .bind (graph_runs c) fun g d charts known =>
    .bind_getState (.ofExcept _ fun answer found => ?_)
  exact ⟨g, known, charts.state_eq ▸ found⟩

theorem follows_runs (c : Conductor) (task : String) (route : Nat) (judgeJoins : Bool) :
    Runs Charts (follows task route judgeJoins) c fun answer _ =>
      ∀ g, c.graph? = some g → c.state.Follows g task route judgeJoins answer := by
  unfold follows State.Follows
  refine .bind_getState ?_
  cases c.state.latest? task route with
  | none => exact .pure fun _ _ => rfl
  | some e =>
    dsimp only
    split
    · refine .bind (graph_runs c) fun g d charts found => .ofExcept _ fun answer led g' known => ?_
      cases charts.eq_of_graph known
      cases known.symm.trans found
      exact led
    · exact .pure fun _ _ => rfl

theorem hasBarrierNext_runs (c : Conductor) (task : Option String) (route : Option Nat) :
    Runs Charts (hasBarrierNext task route) c fun answer _ => ∀ g name way, c.graph? = some g →
      task = some name → route = some way → c.state.Follows g name way false answer := by
  unfold hasBarrierNext
  split
  case h_1 name way =>
    refine (follows_runs c name way false).weaken
      fun answer d _ follows g _ _ known sameName sameWay => ?_
    cases sameName
    cases sameWay
    exact follows g known
  case h_2 unnamed =>
    exact .pure fun g name way _ sameName sameWay => (unnamed name way sameName sameWay).elim

theorem hasNext_runs (c : Conductor) (task : Option String) (route : Option Nat) :
    Runs Charts (hasNext task route) c fun answer _ => ∀ g name way, c.graph? = some g →
      task = some name → route = some way → c.state.Follows g name way true answer ∨
      (name = "" ∧ answer = c.state.hasReady) := by
  unfold hasNext
  split
  · exact .bind_getState (.pure fun g name way _ sameName _ => by cases sameName)
  · refine .bind_getState (.pure fun g name way _ sameName _ => .inr ?_)
    cases sameName
    exact ⟨rfl, rfl⟩
  case h_3 name way _ =>
    refine (follows_runs c name way true).weaken
      fun answer d _ follows g _ _ known sameName sameWay => ?_
    cases sameName
    cases sameWay
    exact .inl (follows g known)
  · exact .pure fun g name way _ _ sameWay => by cases sameWay

theorem unreachableJoins_runs (c : Conductor) : Runs Charts unreachableJoins c fun _ _ => True := by
  unfold unreachableJoins
  exact .bind (graph_runs c) fun g d _ _ => .bind_getState (.ofExcept _ fun _ _ => trivial)

theorem surroundings_runs (c : Conductor) (task : Option String) (route : Option Nat) :
    Runs Charts (surroundings task route) c fun around _ => ∀ g name way, c.graph? = some g →
      task = some name → route = some way → c.state.Surrounds g name way around := by
  unfold surroundings
  refine .bind (hasBarrierNext_runs c task route) fun joins d charts joinsNext => ?_
  refine .bind (hasNext_runs d task route) fun next d' charts' follows => .bind_getState (.pure ?_)
  intro g name way known sameName sameWay
  cases charts.eq_of_graph known
  cases charts'.eq_of_graph known
  exact ⟨joins, next, joinsNext g name way known sameName sameWay,
    follows g name way known sameName sameWay, rfl⟩

theorem taskSignal_runs (c : Conductor) (e : Event) : Runs Charts (taskSignal e) c fun signal _ =>
    ∀ g task route status, c.graph? = some g → e = .task (some task) (some route) status →
      ∃ around, c.state.Surrounds g task route around ∧
        signal = Machine.Workflow.taskSignal e around := by
  unfold taskSignal
  refine .bind (surroundings_runs c _ _) fun around d _ surrounds => .pure ?_
  rintro g task route status known rfl
  exact ⟨around, surrounds g task route known rfl rfl, rfl⟩

theorem requireKnown_runs (c : Conductor) (signal : Signal) (signals : List Signal) :
    Runs Charts (requireKnown signal signals) c fun _ d => d = c ∧ signal ∈ signals := by
  unfold requireKnown
  split
  · exact .throw _
  case isFalse known => exact .pure ⟨rfl, by simpa using known⟩

/-! ### The status of the workflow -/

theorem become_runs {signal : Signal} {new : Status}
    (led : Machine.Workflow.step c.state.status signal = .ok (some new)) :
    Runs Moves (setStatus new) c fun _ d =>
      d = { c with state := { c.state with status := new } } :=
  .move _ (.become c.state signal new led) rfl

theorem logJoins_runs (c : Conductor) (joins : List Staged) :
    Runs Quietly (joins.forM fun t => logError (.unreachableJoin t.task (toString t.route))
      (.ofTask t.task t.route)) c fun _ d => d.state = c.state :=
  .forM_keep Conductor.state fun _ _ d _ => logError_runs d _ _

/-- The workflow comes to a status to which it is led, or fails if that completes it and a join is
out of reach. -/
theorem settle_runs {signal : Signal} {new : Status}
    (led : Machine.Workflow.step c.state.status signal = .ok (some new)) :
    Runs Moves (do setStatus new; failUnreachable) c fun _ d =>
      d.state = { c.state with status := new } ∨
        (new.isCompleted = true ∧ d.state = { c.state with status := .failed }) := by
  let settled : Conductor := { c with state := { c.state with status := new } }
  have becomes : Moves c settled := .single (.state (.become c.state signal new led))
  -- What is done afterwards is one move from the start, not from the status in between.
  let Leads : Conductor → Conductor → Prop := fun _ d => Moves c d
  have : IsTrans Conductor Leads := ⟨fun _ _ _ _ second => second⟩
  suffices Runs Leads failUnreachable settled fun _ d =>
      d.state = { c.state with status := new } ∨
        (new.isCompleted = true ∧ d.state = { c.state with status := .failed }) from this
  have seeks : Runs Leads unreachableJoins settled fun _ d => Charts settled d :=
    ⟨becomes.trans (unreachableJoins_runs settled).kept.quietly.moves,
      fun _ _ found => ((unreachableJoins_runs settled).answer found).1⟩
  unfold failUnreachable
  refine .bind_getState ?_
  split
  case isTrue completed =>
    refine .bind seeks fun joins d _ charts => ?_
    split
    · have fails : Moves c { d with state := { d.state with status := .failed } } := by
        have charted := (charts.withState c.state).quietly.moves
        have failed := State.Move.fail c.state signal new led completed
        rw [charts.state_eq]
        exact charted.tail (.state failed)
      refine .bind_modifyState _ fails ?_
      have logs := logJoins_runs { d with state := { d.state with status := .failed } } joins
      refine ⟨fails.trans logs.kept.moves, fun _ e found => .inr ⟨completed, ?_⟩⟩
      rw [(logs.answer found).2, charts.state_eq]
    · exact .of_result (Conducting.result_pure _ _) (becomes.trans charts.quietly.moves)
        (.inl charts.state_eq)
  case isFalse => exact .of_result (Conducting.result_pure _ _) becomes (.inl rfl)

theorem followTask_runs (c : Conductor) (e : Event) : Runs Moves (followTask e) c fun _ d =>
    ∀ g task route status, c.graph? = some g → e = .task (some task) (some route) status →
      State.Followed g task route status c.state d.state := by
  unfold followTask
  refine .bind (taskSignal_runs c e).quietly.moves ?_
  rintro signal d _ ⟨_, charts, told⟩
  refine .bind (requireKnown_runs d signal _).quietly.moves ?_
  rintro _ d' _ ⟨_, -, rfl, known⟩
  refine .bind_getState (.bind_ofExcept fun answer led => ?_)
  rw [charts.state_eq] at led
  cases answer with
  | none =>
    refine .pure ?_
    rintro g task route status found rfl
    obtain ⟨around, surrounds, rfl⟩ := told g task route status found rfl
    exact ⟨around, none, surrounds, known, led, c.state.status, charts.state_eq, .inl rfl⟩
  | some new =>
    refine (settle_runs (charts.state_eq ▸ led)).weaken ?_
    rintro _ d'' _ same g task route status found rfl
    obtain ⟨around, surrounds, rfl⟩ := told g task route status found rfl
    rw [charts.state_eq] at same
    rcases same with same | ⟨completed, same⟩
    · exact ⟨around, some new, surrounds, known, led, new, same, .inl rfl⟩
    · exact ⟨around, some new, surrounds, known, led, .failed, same,
        .inr ⟨new, rfl, completed, rfl⟩⟩

theorem followRequest_runs (c : Conductor) (e : Event) : Runs Moves (followRequest e) c fun _ d =>
    ∃ answer, requestSignal c.state e ∈ Signal.workflowSignals ∧
      Machine.Workflow.step c.state.status (requestSignal c.state e) = .ok answer ∧
      d.state = { c.state with status := answer.getD c.state.status } := by
  unfold followRequest
  refine .bind_getState ?_
  refine .bind (requireKnown_runs c _ _).quietly.moves ?_
  rintro _ d _ ⟨-, -, rfl, known⟩
  refine .bind_ofExcept fun answer led => ?_
  cases answer with
  | none => exact .pure ⟨none, known, led, rfl⟩
  | some new =>
    refine (become_runs led).weaken ?_
    rintro _ _ _ rfl
    exact ⟨some new, known, led, rfl⟩

theorem follow_runs (c : Conductor) (e : Event) : Runs Moves (follow e) c fun _ _ => True := by
  unfold follow
  split
  · exact (followRequest_runs c e).weaken fun _ _ _ _ => trivial
  · exact (followTask_runs c e).weaken fun _ _ _ _ => trivial
  · exact .throw _

/-! ### Requests -/

theorem tryAdvance_runs (c : Conductor) (index : Nat) (e : Event) :
    Runs Moves (tryState (·.advance index e)) c fun _ d =>
      c.state.advance index e = .ok d.state ∧ d.graph? = c.graph? := by
  unfold tryState
  refine .bind_getState (.bind_ofExcept fun t advanced => ?_)
  rcases State.change_of_advance advanced with rfl | ⟨entry, signal, new, found, -, led, rfl⟩
  · exact .of_modifyState _ .refl ⟨advanced, rfl⟩
  · exact .move _ (.advance c.state index entry signal new found led) ⟨advanced, rfl⟩

theorem told_of_chained {c d : Conductor} {status : Status} {entries : List (Nat × Entry)}
    (chained : Conducting.Chained (fun (entry : Nat × Entry) (c d : Conductor) =>
      c.state.advance entry.1 (.workflow status) = .ok d.state ∧ d.graph? = c.graph?) entries c d) :
    ReflTransGen (State.Tells status) c.state d.state := by
  induction entries generalizing c with
  | nil => exact congrArg Conductor.state chained ▸ .refl
  | cons entry rest ih =>
    obtain ⟨middle, ⟨advanced, -⟩, others⟩ := chained
    rcases State.tells_of_advance advanced with same | tells
    · exact same ▸ ih others
    · exact .head tells (ih others)

theorem requestStatus_runs (c : Conductor) (status : Status) :
    Runs Moves (requestStatus status) c fun _ d => State.Requested status c.state d.state := by
  unfold requestStatus
  refine .bind_getState (.bind_getState ?_)
  refine .bind (.forM_chained fun entry _ d _ => tryAdvance_runs d entry.1 _)
    fun _ d _ chained => ?_
  have told := told_of_chained chained
  refine .bind (followRequest_runs d (.workflow status)) ?_
  rintro _ e _ ⟨answer, known, led, changed⟩
  refine .bind_getState ?_
  dsimp only
  split
  · exact .throw _
  case isFalse fine =>
    refine .pure ⟨d.state, answer, told, known, led, changed, fun same => ?_⟩
    by_contra unlike
    rw [not_or] at unlike
    have pending : isPending status c.state.status e.state.status = false := by simpa using unlike.2
    exact fine (by simp [same, unlike.1, same ▸ pending])

/-- A workflow that is failed keeps its outline but for the status. -/
theorem fail_runs (c : Conductor) : Runs Moves (requestStatus .failed) c fun _ d =>
    d.state.outline = { c.state.outline with status := .failed } := by
  refine (requestStatus_runs c .failed).weaken fun _ d _ requested => ?_
  rw [requested.eq_failed]
  rfl

end Conductor

end Orchestration
