import Orchestration.Proofs.Course.Offer
import Orchestration.Proofs.Course.Rerun
import Orchestration.Proofs.Redrawing
import Orchestration.Proofs.Start

/-!
What hosts ask of a conductor.

An operation may fail, and the host may go on with the conductor that it leaves behind. Every
operation leaves a grounded state grounded.
-/

namespace Orchestration

/-- What a host reports about a task: an event whose status, if it has one, is known. -/
structure Report where
  event : Event
  known : event.status.IsWord

inductive Operation where
  | request (status : Status)
  | next
  | update (task : String) (route : Nat) (report : Report)
  | rerun (requests : List Rerun)
  | render
  | reload

inductive Answer where
  | done
  | offers (offers : List Offer)
  | entry (index : Nat)

/-! Reports about a task that takes nothing and gives nothing. -/

namespace Sample

def started : Report := ⟨.action .running .null .null, .inr rfl⟩

def succeeded : Report := ⟨.action .succeeded .null .null, .inr rfl⟩

def failed : Report := ⟨.action .failed .null .null, .inr rfl⟩

end Sample

namespace Operation

def run [Engine] : Operation → Conducting Answer
  | .request status => do Conductor.requestStatus status; return .done
  | .next => do return .offers (← Conductor.nextTasks)
  | .update task route report => do return .entry (← Conductor.update task route report.event)
  | .rerun requests => do Conductor.requestRerun requests; return .done
  | .render => do Conductor.renderOutput; return .done
  | .reload => do Conductor.reload; return .done

def isRerun : Operation → Bool
  | .rerun _ => true
  | _ => false

def apply [Engine] (c : Conductor) (op : Operation) : Conductor := Conducting.after op.run c

end Operation

namespace Conductor

def afterAll [Engine] (c : Conductor) (ops : List Operation) : Conductor :=
  ops.foldl Operation.apply c

end Conductor

/-! ### What operations keep -/

theorem Conducting.after_bind_pure {α β : Type} (m : Conducting α) (f : α → β) (c : Conductor) :
    after (m >>= fun a => pure (f a)) c = after m c := by
  unfold after
  rw [result_bind]
  rcases result m c with ⟨_ | _, d⟩ <;> rfl

namespace Conductor

/-- The graph and the state of a conductor that has been read are those that were written. -/
theorem deserialize_eq_ok {data : Value} {c : Conductor} (read : deserialize data = .ok c) :
    ∃ drawn written g, fieldOf data "graph" = .ok drawn ∧ fieldOf data "state" = .ok written ∧
      Graph.deserialize drawn = .ok g ∧ c.graph? = some g ∧ c.state = .deserialize written := by
  unfold deserialize at read
  obtain ⟨_, -, read⟩ := bind_eq_ok.mp read
  obtain ⟨_, -, read⟩ := bind_eq_ok.mp read
  obtain ⟨_, -, read⟩ := bind_eq_ok.mp read
  obtain ⟨_, -, read⟩ := bind_eq_ok.mp read
  obtain ⟨drawn, foundGraph, read⟩ := bind_eq_ok.mp read
  obtain ⟨g, readGraph, read⟩ := bind_eq_ok.mp read
  obtain ⟨_, -, read⟩ := bind_eq_ok.mp read
  obtain ⟨_, -, read⟩ := bind_eq_ok.mp read
  obtain ⟨written, foundState, read⟩ := bind_eq_ok.mp read
  obtain ⟨_, -, read⟩ := bind_eq_ok.mp read
  obtain ⟨_, -, read⟩ := bind_eq_ok.mp read
  refine ⟨drawn, written, g, foundGraph, foundState, readGraph, ?_⟩
  unfold restore at read
  dsimp only at read
  split at read
  · cases read
  · split at read
    · cases read
    · cases read
      exact ⟨rfl, rfl⟩

theorem serialize_runs (c : Conductor) : Conducting.Runs Charts serialize c fun data d =>
    fieldOf data "state" = .ok d.state.serialize ∧
      ∃ g, d.graph? = some g ∧ fieldOf data "graph" = .ok g.serialize := by
  unfold serialize
  refine .bind (graph_runs c) fun g d _ known => .bind_get (.pure ?_)
  exact ⟨Graph.fieldOf_fields rfl, g, known, Graph.fieldOf_fields rfl⟩

/-- A reload fails and does no more than compose the graph, or it reads what is written. -/
theorem reload_cases {c : Conductor} (sound : c.state.Sound) :
    (∃ e d, Conducting.result reload c = (.error e, d) ∧ Charts c d) ∨
    ∃ charted g read d, Charts c charted ∧ charted.graph? = some g ∧
      Conducting.result reload c = (.ok (), d) ∧ Graph.deserialize g.serialize = .ok read ∧
      d.graph? = some read ∧ d.state = c.state.reread := by
  have written := serialize_runs c
  unfold reload
  rw [Conducting.result_bind]
  rcases found : Conducting.result serialize c with ⟨_ | data, charted⟩
  · exact .inl ⟨_, charted, rfl, Conducting.after_eq found ▸ written.kept⟩
  · obtain ⟨charts, foundState, g, known, foundGraph⟩ := written.answer found
    dsimp only
    cases read : deserialize data with
    | error e => exact .inl ⟨e, charted, rfl, charts⟩
    | ok d =>
      obtain ⟨_, _, read, sameGraph, sameState, readGraph, knownNow, same⟩ := deserialize_eq_ok read
      cases sameGraph.symm.trans foundGraph
      cases sameState.symm.trans foundState
      rw [charts.state_eq, State.deserialize_serialize sound] at same
      exact .inr ⟨charted, g, read, d, charts, known, rfl, readGraph, knownNow, same⟩

theorem grounded_reload {c : Conductor} (grounded : c.state.Grounded) :
    (Conducting.after reload c).state.Grounded := by
  rcases reload_cases grounded.toSound
    with ⟨e, d, found, charts⟩ | ⟨_, _, _, d, -, -, found, -, -, same⟩
  · rw [Conducting.after_eq found, charts.state_eq]
    exact grounded
  · rw [Conducting.after_eq found, same]
    exact State.grounded_reread grounded

end Conductor

namespace Operation

open Conducting (after_bind_pure)

/-- An operation makes moves. Only a reload does not, and only a rerun does more: it lets the
workflow resume. -/
theorem apply_cases [Engine] {c : Conductor} (grounded : c.state.Grounded) (op : Operation) :
    op = .reload ∨ ∃ d, Conductor.Moves c d ∧ (apply c op = d ∨
      (op.isRerun = true ∧
        apply c op = { d with state := { d.state with status := .resuming } })) := by
  unfold apply
  cases op with
  | request status =>
    rw [run, after_bind_pure]
    exact .inr ⟨_, (Conductor.requestStatus_runs c status).kept, .inl rfl⟩
  | next =>
    rw [run, after_bind_pure]
    exact .inr ⟨_, (Conductor.nextTasks_runs grounded).kept, .inl rfl⟩
  | update task route report =>
    rw [run, after_bind_pure]
    exact .inr ⟨_, (Conductor.update_runs grounded report.known).kept, .inl rfl⟩
  | rerun requests =>
    rw [run, after_bind_pure]
    obtain ⟨d, moves, same | resumed⟩ := Conductor.requestRerun_after grounded requests
    · exact .inr ⟨d, moves, .inl same⟩
    · exact .inr ⟨d, moves, .inr ⟨rfl, resumed⟩⟩
  | render =>
    rw [run, after_bind_pure]
    exact .inr ⟨_, (Conductor.renderOutput_runs fun _ => grounded).kept, .inl rfl⟩
  | reload => exact .inl rfl

theorem grounded_apply [Engine] {c : Conductor} (grounded : c.state.Grounded) (op : Operation) :
    (apply c op).state.Grounded := by
  rcases apply_cases grounded op with rfl | ⟨d, moves, same | ⟨-, resumed⟩⟩
  · rw [apply, run, after_bind_pure]
    exact Conductor.grounded_reload grounded
  · rw [same]
    exact moves.grounded grounded
  · rw [resumed]
    exact (moves.grounded grounded).setStatus (.inr rfl)

end Operation

theorem Conductor.grounded_afterAll [Engine] {c : Conductor} (grounded : c.state.Grounded)
    (ops : List Operation) : (c.afterAll ops).state.Grounded := by
  induction ops generalizing c with
  | nil => exact grounded
  | cons op rest ih => exact ih (Operation.grounded_apply grounded op)

end Orchestration
