import Orchestration.Conductor.Offer
import Orchestration.Proofs.Course.Status

/-!
The course of a conductor that offers tasks.

Contexts are merged, items are kept track of, and what goes wrong is noted.
-/

namespace Orchestration.Conductor

open Conducting (Runs)

variable {c : Conductor}

theorem contextFor_runs (grounded : c.state.Grounded) (task : String) (route : Nat) :
    Runs Quietly (contextFor task route) c fun _ _ => True := by
  unfold contextFor
  refine .tryCatch (initialContext_runs grounded task route) fun e d _ => ?_
  split
  · exact (workflowContext_runs d).weaken fun _ _ _ _ => trivial
  · exact .throw _

theorem offer_runs [Engine] (grounded : c.state.Grounded) (task : String) (route : Nat) :
    Runs Quietly (offer task route) c fun o _ => o.task = task ∧ o.route = route := by
  unfold offer
  refine .bind (contextFor_runs grounded task route) fun own d _ _ =>
    .bind_ofExcept fun current _ => ?_
  refine .bind (withState_runs d current) fun _ d _ _ => ?_
  refine .bind (taskSpec_runs d task).quietly fun spec d _ _ => .bind_ofExcept fun copied _ => ?_
  refine .bind_ofExcept fun described _ => .bind_ofExcept fun actions _ => ?_
  exact .bind_ofExcept fun delay _ => .bind_ofExcept fun items _ => .pure ⟨rfl, rfl⟩

/-- Items that are begun have no status yet. -/
theorem limitItems_runs (c : Conductor) (o : Offer) :
    Runs Steadily (limitItems o) c fun _ _ => True := by
  unfold limitItems
  split
  · exact .pure trivial
  case h_2 count concurrency _ =>
    refine .bind_modifyState _ ⟨.single (.state (.restage c.state o.task o.route _ ?_)), ?_⟩ ?_
    · constructor
      case items =>
        intro t known items mem status inItems
        split at mem
        · cases mem
          exact .inr (List.eq_of_mem_replicate inItems ▸ rfl)
        · exact known items mem status inItems
      all_goals
        intro t
        split <;> rfl
    · refine (State.outline_updateStaged (g := id) (fun t => ?_) c.state o.task o.route).trans ?_
      · split <;> rfl
      · rw [State.updateStaged, List.modify_id]
    · exact .bind_getState (.bind_ofExcept fun _ _ => .pure trivial)

theorem offerStaged_runs [Engine] (grounded : c.state.Grounded) (t : Staged) :
    Runs Steadily (offerStaged t) c fun _ _ => True := by
  unfold offerStaged
  refine .bind (offer_runs grounded t.task t.route).steadily fun o d _ _ => ?_
  refine .bind (limitItems_runs d o) fun o d _ _ => ?_
  exact .ofExcept _ fun _ _ => trivial

def attempt [Engine] (t : Staged) : Conducting (Option (List Offer)) :=
  tryCatch (do
      let o ← offerStaged t
      pure (some (if isWorth o then [o] else [])))
    fun e => do
      logError e (.ofTask t.task t.route)
      pure none

theorem offerAll_cons [Engine] (t : Staged) (rest : List Staged) :
    offerAll (t :: rest) = (do
      let found ← attempt t
      let (offers, failed) ← offerAll rest
      match found with
      | some new => return (new ++ offers, failed)
      | none => return (offers, true)) := rfl

theorem attempt_runs [Engine] (grounded : c.state.Grounded) (t : Staged) :
    Runs Steadily (attempt t) c fun _ _ => True := by
  refine .tryCatch ?_ fun e d _ => ?_
  · exact .bind (offerStaged_runs grounded t) fun _ _ _ _ => .pure trivial
  · exact .bind (logError_runs d e _).steadily fun _ _ _ _ => .pure trivial

theorem offerAll_runs [Engine] (grounded : c.state.Grounded) (staged : List Staged) :
    Runs Steadily (offerAll staged) c fun _ _ => True := by
  induction staged generalizing c with
  | nil => exact .pure trivial
  | cons t rest ih =>
    rw [offerAll_cons]
    refine .bind (attempt_runs grounded t) fun found d steadily _ => ?_
    refine .bind (ih (steadily.1.grounded grounded)) fun others d _ _ => ?_
    cases found <;> exact .pure trivial

/-- To see what comes next changes nothing, but that the workflow fails if a task cannot be
offered. -/
theorem nextTasks_runs [Engine] (grounded : c.state.Grounded) : Runs Moves nextTasks c fun _ d =>
    State.KeptOrFailed c.state.outline d.state.outline := by
  unfold nextTasks
  refine .bind_getState ?_
  dsimp only
  generalize (if (c.state.status == .failed) = true then c.state.ready.filter
    (·.runOnFail) else []) = remedies
  split
  · exact .pure (.inl rfl)
  · refine .bind (offerAll_runs grounded _).moved ?_
    rintro answer d _ ⟨steadily, -⟩
    split
    · refine .bind (fail_runs d) fun _ d' _ failed => .pure (.inr ?_)
      rw [failed, steadily.2]
    · exact .pure (.inl steadily.2)

end Orchestration.Conductor
