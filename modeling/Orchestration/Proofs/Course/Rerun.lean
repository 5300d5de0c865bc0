import Orchestration.Conductor.Rerun
import Orchestration.Proofs.Course.Update

/-!
The course of a conductor that renders its output, or runs tasks again.

What is run again moves like anything else; only at the end the workflow resumes, whatever it had
come to.
-/

namespace Orchestration.Conductor

open Conducting (Runs)

variable {c : Conductor}

/-! ### Output -/

theorem gatherTerminal_runs {before : List (Value × Node)} {entries : List Entry}
    (grounded : c.state.Grounded) (inner : Node.EveryEntry c.state.contexts.Inner before) :
    Runs Quietly (gatherTerminal before entries) c fun _ _ => True := by
  induction entries generalizing c before with
  | nil => exact .pure trivial
  | cons e rest ih =>
    unfold gatherTerminal
    dsimp only
    split
    · exact .throw _
    · have more := grounded.marked.gatherMore (e.contexts.value.erase 0) inner
      have quiet : State.Quiet c.state _ :=
        .gatherMore c.state before (e.contexts.value.erase 0) inner
      refine .bind_getState (.bind_quietMove _ quiet ?_)
      exact .bind_ofExcept fun merged found => ih (quiet.grounded grounded) (more.2 merged found)

theorem terminalContext_runs (grounded : c.state.sequence ≠ [] → c.state.Grounded) :
    Runs Quietly terminalContext c fun _ _ => True := by
  unfold terminalContext
  refine .bind_getState ?_
  dsimp only
  split
  · exact .throw _
  · split
    · exact .pure trivial
    case h_2 first rest found =>
      have grounded := grounded fun none => by
        rw [State.terminalEntries, State.numbered, none] at found
        cases found
      refine .bind (gather_runs grounded first.contexts.value) fun before d quietly inner => ?_
      exact .bind (gatherTerminal_runs (quietly.grounded grounded) inner)
        fun _ _ _ _ => .pure trivial

/-- To render the output changes nothing else, but that the workflow fails if that cannot be
done. -/
theorem renderOutput_runs [Engine] (grounded : c.state.sequence ≠ [] → c.state.Grounded) :
    Runs Moves renderOutput c fun _ d =>
    State.KeptOrFailed c.state.outline d.state.outline := by
  unfold renderOutput
  refine .bind_getState (.bind_get ?_)
  dsimp only
  split
  · refine .bind (terminalContext_runs grounded).moves ?_
    rintro context d _ ⟨quiet, -⟩
    refine .bind (withState_runs d context).moves ?_
    rintro shown d _ ⟨-, rfl⟩
    refine .bind_get (.bind_ofExcept fun rendered _ => ?_)
    have noted : ∀ e : Conductor, e.state.outline = c.state.outline → Runs Moves (do
        if !rendered.errors.isEmpty then
          logErrors rendered.errors .nothing
          if !keepsStatus.contains c.state.status then requestStatus .failed) e
        fun _ e => State.KeptOrFailed c.state.outline e.state.outline := by
      intro e same
      split
      · refine .bind (logErrors_runs e rendered.errors _).moves ?_
        rintro _ e' _ ⟨quiet', -⟩
        have still := quiet'.outline_eq.trans same
        split
        · exact (fail_runs e').weaken fun _ _ _ failed => .inr (by rw [failed, still])
        · exact .pure (.inl still)
      · exact .pure (.inl same)
    split
    · exact .bind_modify _ (.single (.output d _)) (noted _ quiet.outline_eq)
    · exact noted d quiet.outline_eq
  · exact .pure (.inl rfl)

/-! ### Running again -/

theorem clearTerminal_runs (c : Conductor) (indices : List Nat) :
    Runs Moves (clearTerminal indices) c fun _ _ => True :=
  .forM fun i _ d _ => .move _ (.close d.state i false) trivial

theorem isWord_resetItem {item : Status} (all : Bool) (known : item.IsWord) :
    (resetItem all item).IsWord := by
  unfold resetItem
  split
  · exact .inr rfl
  · exact known

theorem restages_resetItems (all : Bool) :
    Staged.Restages fun t => { t with items := t.items.map (·.map (resetItem all)) } where
  task _ := rfl
  route _ := rfl
  contexts _ := rfl
  prev _ := rfl
  retry _ := rfl
  items t known items mem status inItems := by
    obtain ⟨old, before, rfl⟩ := Option.map_eq_some_iff.mp mem
    obtain ⟨item, inOld, rfl⟩ := List.mem_map.mp inItems
    exact isWord_resetItem all (known old before item inOld)

theorem restages_completed (completed : Bool) :
    Staged.Restages fun t => { t with completed := completed } where
  task _ := rfl
  route _ := rfl
  contexts _ := rfl
  prev _ := rfl
  retry _ := rfl
  items _ known := known

theorem forgetErrors_runs (c : Conductor) (task : String) :
    Runs Quietly (forgetErrors task) c fun _ _ => True :=
  .of_modify _ (.single (.record c c.log _)) trivial

/-- What is staged to be run again holds copies of what the latest entry holds. -/
theorem prepareRerun_runs [Engine] {task : String} {route : Nat} (grounded : c.state.Grounded)
    (started : (task, route) ∈ c.state.places) (resetItems : Bool) :
    Runs Moves (prepareRerun task route resetItems) c fun _ _ => True := by
  obtain ⟨last, found, there⟩ := grounded.indexed.exists_index started
  obtain ⟨entry, here, -, rfl, sound⟩ := grounded.entryAt there
  unfold prepareRerun
  refine .bind_getState ?_
  dsimp only
  rw [State.index?, found, Option.getD_some]
  refine .bind (entryAt_runs c last).quietly.moves ?_
  rintro _ d _ ⟨-, -, rfl, same⟩
  cases same.symm.trans here
  refine .bind (taskSpec_runs d task).quietly.moves ?_
  rintro spec d _ ⟨-, -, rfl⟩
  refine .bind_moved _ (.close d.state last false) fun c₁ moves₁ => ?_
  refine .bind_moved _ (.restage c₁.state task entry.route _ (restages_completed false))
    fun c₂ moves₂ => ?_
  refine .bind (forgetErrors_runs c₂ task).moves fun _ c₃ moves₃ _ => ?_
  have cleared : ∀ e : Conductor, Runs Moves (do
      let s ← getState
      clearTerminal (s.downstream task entry.route)) e fun _ _ => True := fun e =>
    .bind_getState (clearTerminal_runs e _)
  have moves : Moves d c₃ := (moves₁.trans moves₂).trans moves₃
  have grounded₃ := moves.grounded grounded
  have held₃ := sound.held.grow moves.grows
  split
  · refine .bind_getState ?_
    split
    · exact .throw _
    · exact .bind_moved _ (.restage _ task entry.route _ (restages_resetItems resetItems))
        fun e _ => cleared e
  · refine .bind (share_runs grounded₃ entry.contexts.value).moves ?_
    rintro reads c₄ moves₄ ⟨-, sameReads, readsMark⟩
    have grounded₄ := moves₄.grounded grounded₃
    refine .bind (share_runs grounded₄ entry.prev.value).moves ?_
    rintro links c₅ moves₅ ⟨-, sameLinks, linksMark⟩
    have grounded₅ := moves₅.grounded grounded₄
    have held₅ := held₃.grow (moves₄.grows.trans moves₅.grows)
    have copies : c₅.state.Held entry.route reads links none :=
      { route := held₅.route
        reads := by
          rw [sameReads]
          exact held₅.reads
        links := by
          rw [sameLinks]
          exact held₅.links
        named := by
          rw [sameLinks]
          exact held₅.named
        contextsMark := readsMark.mono moves₅.grows.marks
        prevMark := linksMark
        retryMark := by
          intro shared mem
          cases mem }
    refine .bind (addEntry_runs grounded₅ task copies) fun _ c₆ moves₆ _ => ?_
    have copies₆ := copies.grow moves₆.grows
    refine .bind (heldOr_runs (moves₆.grounded grounded₅) copies₆.contextsMark [0]).moves ?_
    rintro staged c₇ moves₇ ⟨-, sameStaged, stagedMark⟩
    rw [copies.reads.isEmpty_eq_false] at sameStaged
    have copies₇ := copies₆.grow moves₇.grows
    refine .bind_moved _ (.stage c₇.state task entry.route staged links true none ?_)
      fun e _ => cleared e
    refine { copies₇ with reads := ?_, contextsMark := stagedMark }
    rw [sameStaged]
    exact copies₇.reads

theorem prepareReruns_runs [Engine] (grounded : c.state.Grounded) (requests : List Rerun) :
    Runs Moves (prepareReruns requests) c fun _ _ => True := by
  unfold prepareReruns
  refine .bind_getState ?_
  dsimp only
  split
  · exact .throw _
  refine .bind_getState ?_
  split
  · exact .throw _
  refine .bind_moved _ (.rerun c.state _) fun c₁ moves₁ => ?_
  refine .bind (.forM fun e mem c₂ moves₂ => ?_) fun _ c₃ _ _ => .bind_getState ?_
  · have moves : Moves c c₂ := moves₁.trans moves₂
    refine prepareRerun_runs (moves.grounded grounded) (moves.grows.places.subset ?_) _
    obtain ⟨i, -, found⟩ := List.mem_filterMap.mp ((List.mergeSort_perm ..).mem_iff.mp mem)
    exact List.mem_map.mpr ⟨e, List.mem_of_getElem? found, rfl⟩
  · refine .bind (clearTerminal_runs c₃ _) fun _ d _ _ => ?_
    exact .of_modify _ (.single (.output d .null)) trivial

/-- After tasks have been prepared to be run again the workflow resumes. -/
theorem requestRerun_after [Engine] (grounded : c.state.Grounded) (requests : List Rerun) :
    ∃ d, Moves c d ∧ (Conducting.after (requestRerun requests) c = d ∨
      Conducting.after (requestRerun requests) c =
      { d with state := { d.state with status := .resuming } }) := by
  have prepared := (prepareReruns_runs grounded requests).kept
  refine ⟨_, prepared, ?_⟩
  unfold requestRerun Conducting.after
  rw [Conducting.result_bind]
  rcases Conducting.result (prepareReruns requests) c with ⟨_ | _, d⟩
  · exact .inl rfl
  · exact .inr rfl

end Orchestration.Conductor
