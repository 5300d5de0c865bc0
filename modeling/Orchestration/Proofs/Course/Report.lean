import Orchestration.Proofs.Course.Update
import Orchestration.Proofs.Effects

/-!
What a conductor that takes an event about a task does to the sketch of its state, whether it
succeeds or fails.
-/

namespace Orchestration

open Relation (ReflTransGen)
open Conducting (Ends Runs)

namespace Conductor

variable {c d : Conductor}

theorem Quietly.sketch_eq (quietly : Quietly c d) : d.state.sketch = c.state.sketch :=
  quietly.view_eq State.sketch fun _ _ quiet => quiet.sketch_eq

end Conductor

namespace Conducting.Ends

open Conductor

variable {α β : Type} {m : Conducting α} {c : Conductor} {expected : α → Conductor → Prop}
  {well : β → Conductor → Prop} {ill : Conductor → Prop}

theorem of_quietly (runs : Runs Quietly m c expected) :
    Ends m c (fun a d => Quietly c d ∧ d.state.sketch = c.state.sketch ∧ expected a d)
      (fun d => d.state.sketch = c.state.sketch) :=
  (Ends.of_runs runs).weaken (fun _ _ ⟨quietly, holds⟩ => ⟨quietly, quietly.sketch_eq, holds⟩)
    fun _ quietly => Quietly.sketch_eq quietly

theorem bind_quietly {f : α → Conducting β} (runs : Runs Quietly m c expected)
    (kept : ∀ d, d.state.sketch = c.state.sketch → ill d)
    (rest : ∀ a d, Quietly c d → d.state.sketch = c.state.sketch → expected a d →
      Ends (f a) d well ill) : Ends (m >>= f) c well ill :=
  .bind ((of_quietly runs).orIll kept) fun a d ⟨quietly, same, holds⟩ =>
    rest a d quietly same holds

theorem with_moves {ends : α → Conductor → Prop} (first : Ends m c ends ill)
    (runs : Runs Moves m c expected) :
    Ends m c (fun a d => Moves c d ∧ expected a d ∧ ends a d) ill where
  answered a d found :=
    have ⟨moves, holds⟩ := runs.answer found
    ⟨moves, holds, first.answered a d found⟩
  failed := first.failed

end Conducting.Ends

namespace Conductor

variable {c : Conductor} {task : String} {route index : Nat} {staged : Option Staged} {e : Event}

/-! ### Entries -/

theorem addEntry_ends [Engine] {contexts : Shared (List Nat)} {prev : Shared (List (String × Nat))}
    (grounded : c.state.Grounded) (task : String) (held : c.state.Held route contexts prev none) :
    Ends (addEntry task route contexts prev) c
      (fun _ d => d.state.sketch = c.state.sketch.addEntry (State.freshEntry task route))
      (fun d => d.state.sketch = c.state.sketch) := by
  unfold addEntry
  refine .bind_quietly (requireTask_runs c task).quietly (fun _ same => same)
    fun _ c₁ quiet₁ same₁ _ => ?_
  have held₁ := held.grow quiet₁.grows
  have grounded₁ := quiet₁.grounded grounded
  refine .bind_quietly (heldOr_runs grounded₁ held₁.contextsMark [0])
    (fun _ same => same.trans same₁) fun reads c₂ quiet₂ same₂ _ => ?_
  have held₂ := held₁.grow quiet₂.grows
  have grounded₂ := quiet₂.grounded grounded₁
  refine .bind_quietly (heldOr_runs grounded₂ held₂.prevMark [])
    (fun _ same => same.trans (same₂.trans same₁)) fun links c₃ quiet₃ same₃ _ => ?_
  have same₁₃ : c₃.state.sketch = c.state.sketch := same₃.trans (same₂.trans same₁)
  have grounded₃ := quiet₃.grounded grounded₂
  refine .bind_quietly (retryFor_runs grounded₃ task reads.value) (fun _ same => same.trans same₁₃)
    fun policy c₄ quiet₄ same₄ _ => ?_
  refine .bind_quietly (shareRetry_runs (quiet₄.grounded grounded₃) policy)
    (fun _ same => same.trans (same₄.trans same₁₃)) fun retry c₅ _ same₅ _ => ?_
  refine .bind_modifyState _ (.bind_getState (.pure ?_))
  rw [State.sketch_addEntry, same₅, same₄, same₁₃]
  rfl

theorem addStagedEntry_ends [Engine] (task : String) (grounded : c.state.Grounded)
    (sound : ∀ t ∈ staged, t.route = route ∧ c.state.SoundStaged t) :
    Ends (addStagedEntry task staged) c
      (fun _ d => d.state.sketch = c.state.sketch.addEntry (State.freshEntry task route))
      (fun d => d.state.sketch = c.state.sketch) := by
  unfold addStagedEntry
  split
  case h_1 t =>
    obtain ⟨rfl, stagedSound⟩ := sound t rfl
    refine addEntry_ends grounded task { stagedSound.held with retryMark := ?_ }
    intro shared mem
    cases mem
  case h_2 => exact .throw _ rfl

/-- An event is about the latest entry of the task that it names, or about a new one; if not,
nothing is done. -/
theorem entryFor_ends [Engine] (e : Event)
    (grounded : c.state.Grounded) (sound : ∀ t ∈ staged, t.route = route ∧ c.state.SoundStaged t) :
    Ends (entryFor task route e staged) c
      (fun index d => State.Opened task route e c.state.sketch index d.state.sketch)
      (fun d => d.state.sketch = c.state.sketch) := by
  have outlined {d : Conductor}
      (added : d.state.sketch = c.state.sketch.addEntry (State.freshEntry task route)) :
      d.state.outline = c.state.outline.addEntry (State.freshEntry task route) := by
    rw [← State.outline_sketch, added, State.outline_addEntry, State.outline_sketch]
    rfl
  have knows : Ends (knownEntry task route staged) c
      (fun index d => (d = c ∧ c.state.index? task route = some index ∧
        Command.isName task = false) ∨
        d.state.sketch = c.state.sketch.addEntry (State.freshEntry task route))
      (fun d => d.state.sketch = c.state.sketch) := by
    have adds : Ends (addStagedEntry task staged) c
        (fun index d => (d = c ∧ c.state.index? task route = some index ∧
          Command.isName task = false) ∨
          d.state.sketch = c.state.sketch.addEntry (State.freshEntry task route))
        (fun d => d.state.sketch = c.state.sketch) :=
      (addStagedEntry_ends task grounded sound).weaken (fun _ _ added => .inr added)
        fun _ same => same
    unfold knownEntry
    refine .bind_getState ?_
    split
    case h_1 i found =>
      split
      · exact adds
      case isFalse other => exact .pure (.inl ⟨rfl, found, by simpa using other⟩)
    case h_2 => exact adds
  unfold entryFor
  refine .bind knows fun known d either => .bind_getState (.bind_getState ?_)
  dsimp only
  rcases either with ⟨rfl, found, other⟩ | added
  · rw [found, Option.getD_some]
    split
    · refine .bind (addStagedEntry_ends task grounded sound) fun _ d' added =>
        .bind_getState (.pure (.inr ?_))
      exact ⟨(newest_of_added known (outlined added)).1, added⟩
    case isFalse notAgain =>
      refine .pure (.inl ⟨rfl, found, other, fun entry there => ?_⟩)
      rw [State.getElem?_sketch] at there
      obtain ⟨own, same, rfl⟩ := Option.map_eq_some_iff.mp there
      rw [same] at notAgain
      simpa using notAgain
  · obtain ⟨newest, fresh⟩ := newest_of_added known (outlined added)
    rw [fresh]
    exact .pure (.inr ⟨newest, added⟩)

/-! ### What an event does to a task -/

theorem noteStaged_ends {s : State} (opened : State.Opened task route e s index c.state.sketch)
    (same : s.staged? task route = staged.map Staged.sketch)
    (named : ∀ t ∈ staged, t.task = task ∧ t.route = route) :
    Ends (noteStaged staged e) c (fun _ d => State.Takes task route e s (some index) d.state.sketch)
      (fun d => State.Takes task route e s none d.state.sketch) := by
  have still : c.state.sketch.staged? task route = staged.map Staged.sketch := by
    rw [← same, State.staged?, opened.staged_eq]
    rfl
  unfold noteStaged
  cases staged with
  | none =>
    have shelved : c.state.sketch.shelved task route e = c.state.sketch := by
      rw [State.shelved, still]
      rfl
    refine .pure ?_
    rw [← shelved]
    exact .plain opened (.inr same)
  | some t =>
    obtain ⟨rfl, rfl⟩ := named t rfl
    have noted {d : Conductor}
        (shelved : d.state.sketch = c.state.sketch.shelved t.task t.route e) :
        Ends (noteItem t e) d (fun _ d => State.Takes t.task t.route e s
          (some index) d.state.sketch)
          (fun d => State.Takes t.task t.route e s none d.state.sketch) := by
      have cut : State.Takes t.task t.route e s none d.state.sketch := shelved ▸ .cut opened
      unfold noteItem
      split
      case h_1 item accumulated kind =>
        refine .bind_ofExcept (fun _ _ => cut) fun items found =>
          .bind_ofExcept (fun _ _ => cut) fun place within => ?_
        have given : t.items = some items := by
          simp only [State.itemsOf] at found
          split at found
          case h_1 list there =>
            cases found
            exact there
          case h_2 => cases found
        have unchanged : d.state.sketch = c.state.sketch := by
          rw [shelved, State.shelved, still]
          simp [Staged.sketch, given]
        refine .of_modifyState _ ?_
        rw [State.sketch_updateStaged
          (g := fun x => { x with items := some (items.set place e.status) })
          (by intro _; rfl), unchanged]
        exact .item opened kind same given within
      case h_2 other =>
        exact .pure
          (shelved ▸ .plain opened (.inl fun item accumulated kind => other item accumulated kind))
    dsimp only
    split
    case isTrue leaves =>
      refine .bind_modifyState _ (noted ?_)
      rw [State.sketch_unstage, State.shelved, still]
      exact (if_pos leaves).symm
    case isFalse stays =>
      refine noted ?_
      rw [State.shelved, still]
      exact (if_neg stays).symm

theorem receive_ends [Engine] (e : Event) (grounded : c.state.Grounded) :
    Ends (receive task route e) c
      (fun index d => State.Takes task route e c.state.sketch (some index) d.state.sketch)
      (fun d => State.Takes task route e c.state.sketch none d.state.sketch) := by
  have sound := grounded.sound task route
  unfold receive
  refine .bind_getState (.bind_getState ?_)
  dsimp only
  split
  · exact .throw _ .refuse
  refine .bind ((entryFor_ends e grounded fun t found => (sound t found).2).orIll fun d same =>
    same ▸ .refuse) fun index d opened => ?_
  refine .bind (noteStaged_ends opened (State.staged?_sketch ..) fun t found =>
    ⟨(sound t found).1, (sound t found).2.1⟩) fun _ d₁ takes => ?_
  split
  · have logged := result_logEntry d₁ (.str failedMessage) ⟨.str task, .null, .null⟩ e.result .null
    exact .bind_of_result logged (.pure takes)
  · exact .pure takes

/-- The status of an entry changes as an event leads it, or nothing is done since the event leads it
nowhere. -/
theorem tryEvent_ends {entry : Entry} (found : c.state.sequence[index]? = some entry) :
    Ends (tryState (·.advance index e)) c
      (fun _ d => ∃ changed, d.state.sequence[index]? = some changed ∧
        State.Turns e index c.state.sketch entry.status changed.status d.state.sketch)
      (fun d => d = c ∧ State.Baffles e index c.state.sketch) := by
  have there : c.state.sketch.sequence[index]? = some entry.outline := by
    rw [State.getElem?_sketch, found]
    rfl
  unfold tryState
  refine .bind_getState (.bind_ofExcept (fun error failed => ⟨rfl, entry.outline, error, there, ?_⟩)
    fun t advanced =>
    .of_modifyState _ ?_)
  · rw [State.statusAfter_sketch]
    simp only [State.advance, found] at failed
    change c.state.statusAfter entry.task entry.route entry.status e = _
    cases after : c.state.statusAfter entry.task entry.route entry.status e with
    | error known =>
      rw [after] at failed
      cases failed
      rfl
    | ok answer =>
      rw [after] at failed
      cases answer <;> cases failed
  obtain ⟨signal, answer, told, led, rfl⟩ := State.advance_eq_ok found advanced
  have after : c.state.statusAfter entry.task entry.route entry.status e = .ok answer :=
    bind_eq_ok.mpr ⟨signal, told, led⟩
  rw [← State.statusAfter_sketch] at after
  have turns := State.Turns.turn there after
  cases answer with
  | none =>
    refine ⟨entry, found, ?_⟩
    rw [State.updateEntry_eq_self there rfl] at turns
    exact turns
  | some new =>
    refine ⟨{ entry with status := new }, ?_, ?_⟩
    · change (c.state.sequence.modify index _)[index]? = _
      rw [List.getElem?_modify_eq, found]
      rfl
    · have changed : (c.state.updateEntry index fun own => { own with status := new }).sketch =
          c.state.sketch.updateEntry index fun own => { own with status := new } :=
        State.sketch_updateEntry (by intro _; rfl) c.state index
      exact changed ▸ turns

theorem stageRetry_ends (grounded : c.state.Grounded)
    (there : c.state.places[index]? = some (task, route)) : Ends (stageRetry task route index) c
      (fun _ d => d.state.sketch =
        (c.state.sketch.unstage task route).stage task route ⟨0, []⟩ ⟨0, []⟩ true none)
      (fun d => d.state.sketch = c.state.sketch) := by
  unfold stageRetry
  refine .bind_quietly (entryAt_runs c index).quietly (fun _ same => same) ?_
  rintro entry d - - ⟨-, rfl, found⟩
  obtain ⟨_, same, -, rfl, sound⟩ := grounded.entryAt there
  cases found.symm.trans same
  split
  · exact .throw _ rfl
  case h_2 retry given =>
    refine .bind_ofExcept (fun _ _ => rfl) fun tally _ => ?_
    have accounts : State.Quiet d.state _ := .account d.state retry.mark (·.setField "tally" tally)
    refine .bind_modifyState _ (.bind_modifyState _ ?_)
    -- What the entry holds is never empty, so that nothing new is made for it.
    have holds : heldOr entry.contexts [0] = pure entry.contexts := by
      unfold heldOr
      rw [sound.held.reads.isEmpty_eq_false]
      rfl
    rw [holds]
    refine .bind_of_result (Conducting.result_pure _ _) (.of_modifyState _ ?_)
    rw [State.sketch_stage, State.sketch_unstage, accounts.sketch_eq]

theorem stageRetry_accounted (c : Conductor) (task : String) (route index : Nat) :
    Ends (stageRetry task route index) c (fun _ _ => ¬c.state.Unaccounted index)
      (fun _ => True) := by
  unfold stageRetry
  refine .bind ((Ends.of_runs (entryAt_runs c index)).orIll fun _ _ => trivial) ?_
  rintro entry d ⟨-, rfl, found⟩
  split
  · exact .throw _ trivial
  case h_2 retry given =>
    refine (Ends.of_after (fun _ => True) trivial).weaken (fun _ _ _ => ?_) fun _ _ => trivial
    rintro ⟨_, same, none⟩
    cases found.symm.trans same
    cases none.symm.trans given

theorem leaveStaging_ends (c : Conductor) (task : String) (route : Nat) (hasItems : Bool)
    (status : Status) : Ends (leaveStaging task route hasItems status) c
      (fun _ d => State.Leaves task route c.state.sketch d.state.sketch)
      (fun d => d = c ∧ c.state.sketch.staged? task route = none) := by
  unfold leaveStaging
  split
  · refine .bind_getState ?_
    dsimp only
    split
    case isTrue missing =>
      refine .throw _ ⟨rfl, ?_⟩
      rw [State.staged?_sketch, Option.isNone_iff_eq_none.mp missing]
      rfl
    case isFalse =>
      refine .of_modifyState _ ?_
      rw [State.sketch_updateStaged (g := fun t => { t with completed := true }) (by intro _; rfl)]
      exact .keep
  · refine .of_modifyState _ ?_
    rw [State.sketch_unstage]
    exact .leave

/-! ### Requests -/

end Conductor

theorem State.Tells.sketch {status : Status} {s t : State} (tells : Tells status s t) :
    Tells status s.sketch t.sketch := by
  obtain ⟨index, entry, scope, new, found, led, rfl⟩ := tells
  refine ⟨index, entry.outline, scope, new, ?_, led, sketch_updateEntry (by intro _; rfl) s index⟩
  rw [getElem?_sketch, found]
  rfl

namespace Conductor

variable {c : Conductor} {task : String} {route index : Nat} {g : Graph} {spec : Spec}
  {described : Task} {edge : Edge} {staged : Option Staged} {e : Event}

/-- The entries that are active are told of a request one after the other. Only then can it be
refused, and what has been done is not taken back. -/
theorem requestStatus_told (c : Conductor) (status : Status)
    (keeps : List (Nat × Entry) → State → Prop)
    (start : keeps (c.state.entriesWith Status.active true) c.state)
    (round : ∀ one rest s t, keeps (one :: rest) s → s.advance one.1 (.workflow status) = .ok t →
      keeps rest t) : Ends (requestStatus status) c
      (fun _ d => ∃ told word, keeps [] told ∧ d = { c with state := { told with status := word } })
      (fun d => ∃ rest told, keeps rest told ∧ d = { c with state := told }) := by
  unfold requestStatus
  refine .bind_getState (.bind_getState (.bind (.forM (fun rest d => ∃ told, keeps rest told ∧
    told.status = c.state.status ∧ d = { c with state := told }) ⟨c.state, start, rfl, rfl⟩ ?_) ?_))
  · rintro one rest _ ⟨told, kept, same, rfl⟩
    unfold tryState
    refine .bind_getState (.bind_ofExcept (fun _ _ => ⟨_, told, kept, rfl⟩) fun t advanced =>
      .of_modifyState _ ?_)
    refine ⟨t, round one rest told t kept advanced, ?_, rfl⟩
    rcases State.change_of_advance advanced with rfl | ⟨_, _, _, -, -, -, rfl⟩ <;> exact same
  rintro _ _ ⟨told, kept, same, rfl⟩
  have followed : Ends (follow (.workflow status)) { c with state := told }
      (fun _ d => ∃ word, d = { c with state := { told with status := word } })
      (fun d => ∃ rest told, keeps rest told ∧ d = { c with state := told }) := by
    change Ends (followRequest (.workflow status)) _ _ _
    unfold followRequest requireKnown
    refine .bind_getState ?_
    dsimp only
    split
    · exact .throw _ ⟨[], told, kept, rfl⟩
    · refine .bind_ofExcept (fun _ _ => ⟨[], told, kept, rfl⟩) fun answer _ => ?_
      cases answer with
      | none => exact .pure ⟨told.status, rfl⟩
      | some new => exact .of_modifyState _ ⟨new, rfl⟩
  refine .bind followed ?_
  rintro _ _ ⟨word, rfl⟩
  refine .bind_getState ?_
  dsimp only
  split
  case isTrue refused =>
    obtain rfl : told.status = word := by
      simp only [Bool.and_eq_true, beq_iff_eq] at refused
      exact same.trans refused.2
    exact .throw _ ⟨[], told, kept, rfl⟩
  case isFalse => exact .pure ⟨told, word, kept, rfl⟩

/-- A request that fails has told some entries at most. -/
theorem requestStatus_ends (c : Conductor) (status : Status) :
    Ends (requestStatus status) c (fun _ d => State.Asked status c.state.sketch d.state.sketch)
      (fun d => ReflTransGen (State.Tells status) c.state.sketch d.state.sketch) := by
  refine (requestStatus_told c status
    (fun _ told => ReflTransGen (State.Tells status) c.state.sketch told.sketch) .refl
    fun one rest s t kept advanced => ?_).weaken ?_ ?_
  · rcases State.tells_of_advance advanced with rfl | tells
    · exact kept
    · exact kept.tail tells.sketch
  · rintro _ _ ⟨told, word, kept, rfl⟩
    exact ⟨told.sketch, word, kept, rfl⟩
  · rintro _ ⟨_, told, kept, rfl⟩
    exact kept

theorem fail_ends (c : Conductor) : Ends (requestStatus .failed) c
    (fun _ d => d.state.sketch = { c.state.sketch with status := .failed })
    (fun d => d.state.sketch = c.state.sketch) where
  answered a d found := by
    rw [((requestStatus_runs c .failed).answer found).2.eq_failed]
    rfl
  failed e d found := by
    rcases ((requestStatus_ends c .failed).failed e d found).cases_tail with same | ⟨_, -, last⟩
    · exact same
    · obtain ⟨_, _, _, _, -, led, -⟩ := last
      cases (Machine.Task.stop_of_step led).1

/-! ### Transitions -/

theorem result_graph (known : c.graph? = some g) : Conducting.result graph c = (.ok g, c) := by
  unfold graph
  rw [Conducting.result_bind_of_ok (Conducting.result_get c), known]
  rfl

/-- A transition goes on on its own route or on a new one, if it can be told on which. -/
theorem routeFor_ends (known : c.graph? = some g) (edge : Edge) (route : Nat) :
    Ends (routeFor edge route) c
      (fun way d => State.Routes route edge c.state.sketch way d.state.sketch)
      (fun d => d = c) := by
  unfold routeFor tasks
  refine .bind (.bind_get (.ofExcept _ (fun _ _ => rfl) fun _ _ => rfl)) ?_
  rintro tasks _ rfl
  refine .bind_ofExcept (fun _ _ => rfl) fun flow _ =>
    .bind_ofExcept (fun _ _ => rfl) fun split _ => ?_
  refine .bind_of_result (result_graph known) ?_
  split
  · exact .pure .stay
  refine .bind_getState ?_
  split
  · exact .throw _ rfl
  case h_2 old found =>
    dsimp only
    split
    · exact .pure .stay
    · refine .bind_modifyState _ (.bind_getState (.pure ?_))
      have branches : State.Routes route edge c.state.sketch c.state.sketch.routes.length _ :=
        .branch found
      simpa [State.sketch] using branches

theorem stageNext_ends (c : Conductor) (task target : String) (index route : Nat)
    {indices : List Nat} (edge : Edge) {count : Nat} (readable : Readable count indices) :
    Ends (stageNext task edge index target route indices) c
      (fun _ d => d.state.sketch = c.state.sketch.reach target route) (fun _ => False) := by
  unfold stageNext
  refine .bind_getState ?_
  have there := State.staged?_sketch c.state target route
  split
  case h_1 t found =>
    rw [found] at there
    have taken : withoutFirst indices = .ok (indices.erase 0) := by
      rw [withoutFirst, if_pos (by simpa using readable.zero_mem)]
    rw [taken]
    refine .bind_of_result (Conducting.result_ofExcept _ _) ?_
    refine .bind_modifyState _ (.bind_modifyState _ (.of_modifyState _ ?_))
    rw [State.sketch_updateStaged (g := fun x => { x with items := none, completed := false })
      (by intro _; rfl), State.reach, there]
    have same (mark mark' : Nat) (f : List Nat → List Nat)
        (f' : List (String × Nat) → List (String × Nat)) :
        ((c.state.changeContexts mark f).changePrev mark' f').sketch = c.state.sketch := by
      simp only [State.changeContexts, State.changePrev, State.sketch, List.map_map]
      rfl
    rw [same]
    rfl
  case h_2 missing =>
    rw [missing] at there
    refine .bind_of_result (result_share _ _)
      (.bind_of_result (result_share _ _) (.of_modifyState _ ?_))
    rw [State.sketch_stage, State.reach, there]
    rfl

theorem publish_ends (grounded : c.state.Grounded)
    (there : c.state.places[index]? = some (task, route)) (key : String)
    (published : List (Value × Node)) : Ends (publish index key published) c
      (fun indices d => Quietly c d ∧ d.state.sketch = c.state.sketch ∧
        Readable d.state.contexts.items.length indices) (fun _ => False) where
  answered indices d found :=
    have ⟨quietly, readable⟩ := (publish_runs grounded there key published).answer found
    ⟨quietly, quietly.sketch_eq, readable⟩
  failed e d found := by
    obtain ⟨entry, here, -⟩ := grounded.entryAt there
    unfold publish at found
    rw [Conducting.result_bind_of_ok (result_entryAt here)] at found
    dsimp only at found
    split at found <;> cases found

theorem inbound_ends (known : c.graph? = some g) (task : String) (route : Nat) :
    Ends (inbound task route) c
      (fun answer d => d = c ∧ isMet g c.state task route = .ok (answer == .satisfied))
      (fun d => d = c) := by
  unfold inbound
  exact .bind_of_result (result_graph known) (.bind_getState
    (.ofExcept _ (fun answer found => ⟨rfl, State.isMet_of_inboundIn found⟩) fun _ _ => rfl))

theorem prepare_ends (edge : Edge) (grounded : c.state.Grounded)
    (there : c.state.places[index]? = some (task, route)) (known : c.graph? = some g)
    (published : List (Value × Node)) : Ends (prepare task route index edge published) c
      (fun next d => ∃ routed, State.Routes route edge c.state.sketch next.1 routed ∧
        isMet g (routed.reach edge.target next.1) edge.target route = .ok next.2 ∧
        d.state.sketch = (routed.reach edge.target next.1).setReady edge.target next.1 next.2)
      (fun d => d.state.sketch = c.state.sketch ∨
        ∃ way routed, State.Routes route edge c.state.sketch way routed ∧
          d.state.sketch = routed.reach edge.target way) := by
  unfold prepare
  refine .bind ((publish_ends grounded there _ published).orIll fun _ never => never.elim) ?_
  rintro indices c₁ ⟨quiet₁, same₁, readable⟩
  have grounded₁ := quiet₁.grounded grounded
  have there₁ := quiet₁.grows.place there
  have known₁ := quiet₁.moves.graph_eq known
  obtain ⟨entry, -, -, rfl, sound⟩ := grounded₁.entryAt there₁
  have routes := (routeFor_ends known₁ edge entry.route).with_moves
    (routeFor_runs c₁ edge sound.held.route).moved
  rw [same₁] at routes
  refine .bind (routes.orIll fun d kept => .inl (kept ▸ same₁)) ?_
  rintro way c₂ ⟨moves₂, ⟨-, routed⟩, goes⟩
  have there₂ := moves₂.grows.place there₁
  have readable₂ := readable.mono moves₂.grows.contexts
  have stages := (stageNext_ends c₂ task edge.target index way edge readable₂).with_moves
    (stageNext_runs edge (moves₂.grounded grounded₁) there₂ routed readable₂)
  refine .bind (stages.orIll fun _ never => never.elim) ?_
  rintro _ c₃ ⟨moves₃, -, reached⟩
  have known₃ := moves₃.graph_eq (moves₂.graph_eq known₁)
  refine .bind ((inbound_ends known₃ edge.target entry.route).orIll ?_) ?_
  · rintro _ rfl
    exact .inr ⟨way, c₂.state.sketch, goes, reached⟩
  rintro answer c₃ ⟨rfl, met⟩
  refine .bind_modifyState _ (.pure ⟨c₂.state.sketch, goes, ?_, ?_⟩)
  · rw [← reached, State.isMet_sketch]
    exact met
  · rw [State.sketch_updateStaged (g := fun x => { x with ready := answer == .satisfied })
      (by intro _; rfl), reached]
    rfl

theorem goAlong_ends [Engine] (grounded : c.state.Grounded)
    (there : c.state.places[index]? = some (task, route)) (known : c.graph? = some g)
    (context : Value) : Ends (goAlong task route index described context edge) c
      (fun found d => State.Along g route index edge c.state.sketch (some found) d.state.sketch)
      (fun d => State.Along g route index edge c.state.sketch none d.state.sketch) := by
  unfold goAlong
  dsimp only
  split
  case h_1 e _ =>
    have logged := result_logError e
      ⟨.str task, .int route, .str (State.transitionKey edge.target edge.key)⟩ c
    refine .bind_of_result logged (.bind ((fail_ends _).orIll ?_) ?_)
    · intro d same
      rw [same]
      exact .halt
    · intro _ d failed
      refine .pure ?_
      rw [failed]
      exact .fail
  case h_2 taken _ =>
    have notes : State.Move c.state _ :=
      .note c.state index (State.transitionKey edge.target edge.key) taken
    refine .bind_modifyState _ ?_
    let c₁ : Conductor := { c with state := c.state.updateEntry index fun e =>
      { e with next := putNamed e.next (State.transitionKey edge.target edge.key) taken } }
    have noted : c₁.state.sketch = c.state.sketch.note index edge taken :=
      State.sketch_updateEntry (by intro _; rfl) c.state index
    split
    case isTrue no =>
      obtain rfl : taken = false := by simpa using no
      exact .pure (noted ▸ .pass)
    case isFalse yes =>
      obtain rfl : taken = true := by simpa using yes
      have leaves : State.Along g route index edge c.state.sketch none c₁.state.sketch :=
        noted ▸ .cut
      refine .bind_of_result (result_graph (c := c₁) known) ?_
      refine .bind_ofExcept (fun _ _ => leaves) fun vertex _ => ?_
      refine .bind_ofExcept (fun _ _ => leaves) fun number _ => ?_
      refine .bind_ofExcept (fun _ _ => leaves) fun out _ => ?_
      split
      · have logged := result_logErrors out.errors
          ⟨.str task, .int route, .str (State.transitionKey edge.target edge.key)⟩ c₁
        refine .bind_of_result logged (.bind ((fail_ends _).orIll ?_) ?_)
        · intro d same
          rw [same]
          exact leaves
        · intro _ d failed
          refine .pure ?_
          rw [failed]
          exact noted ▸ .cutFailed
      · have there₁ := notes.grows.place there
        have prepares := prepare_ends (c := c₁) edge (notes.grounded grounded) there₁ known
          out.published
        rw [noted] at prepares
        refine .bind (prepares.orIll ?_) ?_
        · rintro d (same | ⟨way, routed, goes, same⟩)
          · exact same ▸ .cut
          · exact same ▸ .cutReached goes
        · rintro ⟨way, ready⟩ d ⟨routed, goes, met, same⟩
          have along := State.Along.go goes met
          rw [← same, State.followers] at along
          cases named : Command.ofName? edge.target with
          | some command =>
            rw [named] at along
            exact .pure along
          | none =>
            rw [named] at along
            exact .pure along

theorem goEach_ends [Engine] (context : Value) (edges : List Edge) (grounded : c.state.Grounded)
    (there : c.state.places[index]? = some (task, route)) (known : c.graph? = some g) :
    Ends (edges.mapM (goAlong task route index described context)) c
      (fun found d => State.Onward g route index edges c.state.sketch found true d.state.sketch)
      (fun d => ∃ found, State.Onward g route index edges c.state.sketch found false
        d.state.sketch) := by
  induction edges generalizing c with
  | nil =>
    rw [List.mapM_nil]
    exact .pure (.done _)
  | cons edge rest ih =>
    rw [List.mapM_cons]
    have along := (goAlong_ends grounded there known context).with_moves
      (goAlong_runs grounded there described context edge)
    refine .bind (along.orIll fun _ halts => ⟨[], .cut halts⟩) ?_
    rintro found d ⟨moves, -, goes⟩
    refine .bind ((ih (moves.grounded grounded) (moves.grows.place there)
      (moves.graph_eq known)).orIll ?_) ?_
    · rintro e ⟨more, halts⟩
      exact ⟨found :: more, .next goes halts⟩
    · exact fun more e onward => .pure (.next goes onward)

theorem result_runOnFail (c : Conductor) (tasks : List (String × Nat)) :
    Conducting.result (tasks.forM fun next =>
      modifyState (·.updateStaged next.1 next.2 fun t => { t with runOnFail := true })) c =
      (.ok (), { c with state := c.state.setRunOnFail tasks }) := by
  induction tasks generalizing c with
  | nil => rfl
  | cons next rest ih =>
    exact ih
      { c with state := c.state.updateStaged next.1 next.2 fun t => { t with runOnFail := true } }

theorem sketch_setRunOnFail (s : State) (tasks : List (String × Nat)) :
    (s.setRunOnFail tasks).sketch = s.sketch.setRunOnFail tasks := by
  induction tasks generalizing s with
  | nil => rfl
  | cons next rest ih =>
    refine (ih (s.updateStaged next.1 next.2 fun t => { t with runOnFail := true })).trans ?_
    rw [State.sketch_updateStaged (g := fun t => { t with runOnFail := true }) (by intro _; rfl)]
    rfl

theorem goOn_ends [Engine] (described : Task) (context : Value)
    (grounded : c.state.Grounded) (there : c.state.places[index]? = some (task, route))
    (known : c.graph? = some g) :
    Ends (goOn task route index described context) c
      (fun commands d => ∃ found gone, commands = found.flatMap (·.commands) ∧
        d.state.sketch = gone.remedied found ∧
        State.Onward g route index (g.nextTransitions task) c.state.sketch found true gone)
      (fun d => ∃ found, State.Onward g route index
        (g.nextTransitions task) c.state.sketch found false d.state.sketch) := by
  have goAll_ends {d : Conductor} (moves : Moves c d) (same : d.state.sketch = c.state.sketch) :
      Ends (goAll task route index described context (g.nextTransitions task)) d
        (fun commands e => ∃ found gone, commands = found.flatMap (·.commands) ∧
          e.state.sketch = gone.remedied found ∧
          State.Onward g route index (g.nextTransitions task) c.state.sketch found true gone)
        (fun e => ∃ found, State.Onward g route index
          (g.nextTransitions task) c.state.sketch found false e.state.sketch) := by
    unfold goAll
    rw [← same]
    refine .bind (goEach_ends context _ (moves.grounded grounded) (moves.grows.place there)
      (moves.graph_eq known)) fun found e onward => ?_
    dsimp only
    split
    case isTrue fails =>
      refine .bind_of_result (result_runOnFail e _) (.pure ⟨found, e.state.sketch, rfl, ?_, onward⟩)
      rw [sketch_setRunOnFail, State.remedied, if_pos fails]
    case isFalse fine =>
      refine .pure ⟨found, e.state.sketch, rfl, ?_, onward⟩
      rw [State.remedied, if_neg fine]
  unfold goOn
  refine .bind_of_result (result_graph known) ?_
  dsimp only
  split
  · have closes : State.Move c.state _ := .close c.state index true
    refine .bind_modifyState _ (goAll_ends (.single (.state closes)) ?_)
    rw [State.sketch_updateEntry (g := id) (by intro _; rfl), State.updateEntry, List.modify_id]
  · exact goAll_ends .refl rfl

/-! ### Reports -/

def reactionOf : Option (List (Command × Nat)) → State.Reaction
  | none => .again
  | some commands => .go commands

/-- A task that is completed is tried again only if there is an account of its retries. -/
theorem complete_ends [Engine] (spec : Spec) (old : Status) {new : Status} (e : Event)
    (grounded : c.state.Grounded) (there : c.state.places[index]? = some (task, route))
    (known : c.graph? = some g) (completed : new.isCompleted = true) :
    Ends (complete task route index spec e old.orUnset new) c
      (fun answer d => State.Reacts g task route index old new c.state.sketch
        (reactionOf answer) d.state.sketch ∧ (c.state.Unaccounted index → answer ≠ none))
      (fun d => State.Reacts g task route index old new c.state.sketch .stop d.state.sketch) := by
  unfold complete
  have leaves := (leaveStaging_ends c task route spec.hasItems new).with_moves
    (leaveStaging_runs c task route spec.hasItems new)
  refine .bind (leaves.orIll ?_) ?_
  · rintro _ ⟨rfl, unstaged⟩
    exact .cut fun _ => unstaged
  rintro _ c₁ ⟨moves₁, -, left⟩
  have stop : State.Reacts g task route index old new c.state.sketch .stop c₁.state.sketch :=
    .leave completed left
  refine .bind_quietly (completedContext_runs (moves₁.grounded grounded) index _)
    (fun d same => same ▸ stop) ?_
  intro context c₂ quiet₂ same₂ _
  rw [← same₂] at left stop
  have moves : Moves c c₂ := moves₁.trans quiet₂.moves
  refine .bind_getState (.bind ((Ends.of_runs (entryAt_runs c₂ index)).orIll
    fun d charts => charts.state_eq ▸ stop) ?_)
  rintro entry d ⟨-, rfl, found⟩
  refine .bind_ofExcept (fun _ _ => stop) fun again wants => ?_
  split
  case isTrue retries =>
    refine .pure ⟨.again completed left, fun unaccounted => ?_⟩
    obtain ⟨_, same, none⟩ := moves.unaccounted unaccounted
    cases found.symm.trans same
    rw [wantsRetry, none] at wants
    cases wants
    simp at retries
  split
  case isTrue different =>
    have changed : new ≠ old.orUnset := by simpa using different
    refine .bind_ofExcept (fun _ _ => stop) fun described _ => ?_
    refine .bind ((goOn_ends described context (moves.grounded grounded) (moves.grows.place there)
      (moves.graph_eq known)).orIll ?_) ?_
    · rintro d ⟨found, cut⟩
      exact .halt completed changed left cut
    · rintro commands d ⟨found, gone, rfl, same, onward⟩
      exact .pure ⟨same ▸ .go completed changed left onward, fun _ => Option.some_ne_none _⟩
  case isFalse same =>
    refine .pure ⟨.same completed ?_ left, fun _ => Option.some_ne_none _⟩
    simpa using same

theorem advance_ends [Engine] (spec : Spec) (e : Event)
    (grounded : c.state.Grounded) (there : c.state.places[index]? = some (task, route))
    (known : c.graph? = some g) :
    Ends (advance task route index spec e) c
      (fun answer d => ∃ old new turned, State.Turns e index c.state.sketch old new turned ∧
        State.Reacts g task route index old new turned (reactionOf answer) d.state.sketch ∧
        (c.state.Unaccounted index → answer ≠ none ∧ new ≠ .retrying))
      (fun d => d.state.sketch = c.state.sketch ∧ State.Baffles e index c.state.sketch ∨
        ∃ old new turned, State.Turns e index c.state.sketch old new turned ∧
          State.Reacts g task route index old new turned .stop d.state.sketch) := by
  obtain ⟨entry, found, -⟩ := grounded.entryAt there
  unfold advance
  refine .bind_of_result (result_entryAt found) ?_
  refine .bind (((tryEvent_ends found).with_moves (tryAdvance_runs c index e)).orIll ?_) ?_
  · rintro _ ⟨rfl, baffles⟩
    exact .inl ⟨rfl, baffles⟩
  rintro _ c₁ ⟨moves₁, -, changed, foundNow, turns⟩
  have grounded₁ := moves₁.grounded grounded
  have there₁ := moves₁.grows.place there
  refine .bind_of_result (result_entryAt foundNow) ?_
  dsimp only
  split
  case isTrue retries =>
    have retrying : changed.status = .retrying :=
      Status.eq_of_orUnset (by simpa using retries) (by decide)
    have stages := (stageRetry_ends grounded₁ there₁).and (stageRetry_accounted c₁ task route index)
    refine .bind (stages.orIll ?_) ?_
    · rintro d ⟨same, -⟩
      refine .inr ⟨_, _, _, turns, same ▸ .cut fun completed => ?_⟩
      rw [retrying] at completed
      cases completed
    · rintro _ d ⟨staged, accounted⟩
      rw [retrying, if_neg (by decide)]
      refine .pure ⟨_, _, _, turns, staged ▸ .retry retrying, fun unaccounted => ?_⟩
      exact (accounted (moves₁.unaccounted unaccounted)).elim
  case isFalse other =>
    split
    case isTrue completed =>
      rw [Status.isCompleted_orUnset] at completed
      rw [Status.orUnset_of_isCompleted completed]
      have completes := complete_ends spec entry.status e grounded₁ there₁
        (moves₁.graph_eq known) completed
      refine completes.weaken ?_ fun _ reacts => .inr ⟨_, _, _, turns, reacts⟩
      intro _ _ ⟨reacts, again⟩
      refine ⟨_, _, _, turns, reacts,
        fun unaccounted => ⟨again (moves₁.unaccounted unaccounted), fun same => ?_⟩⟩
      rw [same] at completed
      cases completed
    case isFalse open_ =>
      rw [Status.isCompleted_orUnset, Bool.not_eq_true] at open_
      have fresh : changed.status ≠ .retrying := fun same => other (by rw [same]; rfl)
      exact .pure ⟨_, _, _, turns, .stay fresh open_, fun _ => ⟨Option.some_ne_none _, fresh⟩⟩

/-- The workflow comes to a status to which it is led, or fails if that completes it, even if
something goes wrong then. -/
theorem settle_ends (c : Conductor) (new : Status) :
    let Settled : Conductor → Prop :=
      fun d => d.state.sketch = { c.state.sketch with status := new } ∨
      (new.isCompleted = true ∧ d.state.sketch = { c.state.sketch with status := .failed })
    Ends (do setStatus new; failUnreachable) c (fun _ d => Settled d) Settled := by
  intro Settled
  unfold failUnreachable
  refine .bind_modifyState _ (.bind_getState ?_)
  split
  case isTrue completed =>
    refine .bind_quietly (unreachableJoins_runs _).quietly (fun d same => .inl same) ?_
    intro joins d _ same _
    split
    · refine .bind_modifyState _ ((Ends.of_quietly (logJoins_runs _ joins)).weaken ?_ ?_)
      · intro _ e ⟨_, kept, _⟩
        refine .inr ⟨completed, kept.trans ?_⟩
        exact congrArg (fun s : State => { s with status := .failed }) same
      · intro e kept
        refine .inr ⟨completed, kept.trans ?_⟩
        exact congrArg (fun s : State => { s with status := .failed }) same
    · exact .pure (.inl same)
  case isFalse => exact .pure (.inl rfl)

theorem follow_ends (known : c.graph? = some g) (task : String) (route : Nat) (status : Status) :
    let Followed : Conductor → Prop :=
      fun d => State.Followed g task route status c.state.sketch d.state.sketch
    Ends (follow (.task (some task) (some route) status)) c
      (fun _ d => Followed d) (fun d => d.state.sketch = c.state.sketch ∨ Followed d) := by
  intro Followed
  change Ends (followTask _) c _ _
  unfold followTask
  refine .bind_quietly (taskSignal_runs c _).quietly (fun _ same => .inl same) ?_
  rintro signal d quietly same ⟨charts, told⟩
  obtain ⟨around, surrounds, rfl⟩ := told g task route status known rfl
  have surrounds := State.surrounds_sketch.mpr surrounds
  refine .bind_quietly (requireKnown_runs d _ _).quietly (fun _ kept => .inl (kept.trans same)) ?_
  rintro _ d - - ⟨-, rfl, answers⟩
  refine .bind_getState (.bind_ofExcept (fun _ _ => .inl same) fun answer led => ?_)
  rw [charts.state_eq] at led
  cases answer with
  | none => exact .pure ⟨around, none, surrounds, answers, led, c.state.status, same, .inl rfl⟩
  | some new =>
    have became {e : Conductor} (settled : e.state.sketch = { d.state.sketch with status := new } ∨
        (new.isCompleted = true ∧ e.state.sketch = { d.state.sketch with status := .failed })) :
        Followed e := by
      rw [same] at settled
      rcases settled with changed | ⟨completed, changed⟩
      · exact ⟨around, some new, surrounds, answers, led, new, changed, .inl rfl⟩
      · exact ⟨around, some new, surrounds, answers, led, .failed, changed,
          .inr ⟨new, rfl, completed, rfl⟩⟩
    exact (settle_ends d new).weaken (fun _ _ settled => became settled) fun _ settled =>
      .inr (became settled)

theorem taskSpec_ends (c : Conductor) (task : String) :
    Ends (taskSpec task) c (fun _ d => d = c) (fun d => d = c) := by
  unfold taskSpec
  exact .bind_get (.ofExcept _ (fun _ _ => rfl) fun _ _ => rfl)

def carryOn [Engine] (depth : Nat) (task : String) (route index : Nat) :
    Option (List (Command × Nat)) → Conducting Nat
  | none => updateWithin depth task route (.command .retry)
  | some commands => do
    follow (.task (some task) (some route) (← ofExcept (requireStatus (← entryAt index))))
    commands.forM fun (command, route) => do
      let _ ← updateWithin depth command.name route (.command command)
    if (← getState).status.isCompleted then modifyEntry index fun e => { e with terminal := true }
    return index

theorem updateWithin_succ [Engine] (depth : Nat) (task : String) (route : Nat) (e : Event) :
    updateWithin (depth + 1) task route e = (do
      requireTask task
      let spec ← taskSpec task
      let index ← receive task route e
      carryOn depth task route index (← advance task route index spec e)) := by
  rw [updateWithin]
  refine congrArg _
    (funext fun _ => congrArg _ (funext fun spec => congrArg _ (funext fun index => ?_)))
  refine congrArg _ (funext fun answer => ?_)
  cases answer <;> rfl

def reactTo [Engine] (task : String) (route : Nat) (e : Event) :
    Conducting (Nat × Option (List (Command × Nat))) := do
  requireTask task
  let spec ← taskSpec task
  let index ← receive task route e
  return (index, ← advance task route index spec e)

theorem updateWithin_eq_reactTo [Engine] (depth : Nat) (task : String) (route : Nat) (e : Event) :
    updateWithin (depth + 1) task route e =
      reactTo task route e >>= fun reaction => carryOn depth task route reaction.1 reaction.2 := by
  simp only [updateWithin_succ, reactTo, bind_assoc, pure_bind]

/-- A task receives an event and reacts to it. It does not answer that it is to be tried again if
what it has received is about an entry without an account of retries. -/
theorem reactTo_ends [Engine] (grounded : c.state.Grounded) (word : e.status.IsWord)
    (known : c.graph? = some g) : Ends (reactTo task route e) c
      (fun reaction d => Moves c d ∧
        (Ends (receive task route e) c (fun index d => d.state.Unaccounted index) (fun _ => True) →
          reaction.2 ≠ none) ∧
        ∃ taken old new turned, State.Takes task route e c.state.sketch (some reaction.1) taken ∧
          State.Turns e reaction.1 taken old new turned ∧
          State.Reacts g task route reaction.1 old new turned
          (reactionOf reaction.2) d.state.sketch)
      (fun d => State.Takes task route e c.state.sketch none d.state.sketch ∨
        ∃ index taken, State.Takes task route e c.state.sketch (some index) taken ∧
          (d.state.sketch = taken ∨ ∃ old new turned, State.Turns e index taken old new turned ∧
            State.Reacts g task route index old new turned .stop d.state.sketch)) := by
  unfold reactTo
  refine .bind ((Ends.of_runs (requireTask_runs c task)).weaken
    (fun _ d charts => charts.1.eq_of_graph known) ?_) ?_
  · intro d charts
    rw [charts.eq_of_graph known]
    exact .inl .refuse
  rintro _ c rfl
  refine .bind ((taskSpec_ends c task).orIll ?_) ?_
  · rintro _ rfl
    exact .inl .refuse
  rintro spec c rfl
  have receives := ((receive_ends e grounded).with_moves (receive_runs grounded word)).and
    (Ends.of_results (receive task route e) c)
  refine .bind (receives.orIll fun _ refused => .inl refused.1) ?_
  rintro index d ⟨⟨moves, received, takes⟩, found⟩
  have groundedNow := moves.grounded grounded
  have latest : d.state.index? task route = some index := received.latest
  have there := groundedNow.indexed.index?_place latest
  have advances := advance_ends spec e groundedNow there (moves.graph_eq known)
  refine .bind ((advances.with_moves (advance_runs groundedNow latest spec e)).orIll ?_) ?_
  · exact fun d stops => .inr ⟨index, _, takes, stops.imp_left And.left⟩
  rintro answer d' ⟨movesNow, -, old, new, turned, turns, reacts, accounted⟩
  refine .pure ⟨moves.trans movesNow, fun unaccounted => ?_, _, old, new, turned,
    takes, turns, reacts⟩
  exact (accounted (unaccounted.answered index d found)).1

/-- How an event about a task ends depends on what has been received, and on how the task has
reacted. -/
theorem updateWithin_ends [Engine] {well : Nat → Conductor → Prop}
    {ill : Conductor → Prop} (depth : Nat) (grounded : c.state.Grounded) (word : e.status.IsWord)
    (known : c.graph? = some g)
    (refused : ∀ d, State.Takes task route e c.state.sketch none d.state.sketch → ill d)
    (stopped : ∀ index taken d, State.Takes task route e c.state.sketch (some index) taken →
      (d.state.sketch = taken ∨ ∃ old new turned, State.Turns e index taken old new turned ∧
        State.Reacts g task route index old new turned .stop d.state.sketch) → ill d)
    (onward : ∀ index taken old new turned answer d, State.Takes task route e c.state.sketch
      (some index) taken → State.Turns e index taken old new turned →
      State.Reacts g task route index old new turned
      (reactionOf answer) d.state.sketch → Moves c d →
      Ends (carryOn depth task route index answer) d well ill) :
    Ends (updateWithin (depth + 1) task route e) c well ill := by
  rw [updateWithin_eq_reactTo]
  refine .bind ((reactTo_ends grounded word known).orIll ?_) ?_
  · rintro d (none | ⟨index, taken, takes, stops⟩)
    · exact refused d none
    · exact stopped index taken d takes stops
  · rintro ⟨index, answer⟩ d ⟨moves, -, taken, old, new, turned, takes, turns, reacts⟩
    exact onward index taken old new turned answer d takes turns reacts moves

/-- How it ends when the workflow follows a task and commands are carried out, by what each command
keeps. -/
theorem carryOn_ends [Engine] {commands : List (Command × Nat)}
    {ill : Conductor → Prop} (keeps : List (Command × Nat) → Conductor → Prop) (depth : Nat)
    (known : c.graph? = some g) (unfollowed : ∀ d, d.state.sketch = c.state.sketch → ill d)
    (cut : ∀ status d, State.Followed g task route status c.state.sketch d.state.sketch → ill d)
    (start : ∀ status d, State.Followed g task route status c.state.sketch d.state.sketch →
      Moves c d → keeps commands d)
    (round : ∀ next rest d, keeps (next :: rest) d →
      Ends (updateWithin depth next.1.name next.2 (.command next.1)) d
      (fun _ e => keeps rest e) ill) : Ends (carryOn depth task route index (some commands)) c
      (fun _ d => ∃ last, keeps [] last ∧ d.state.sketch = last.state.sketch) ill := by
  unfold carryOn
  refine .bind ((Ends.of_runs (entryAt_runs c index)).orIll
    fun d charts => unfollowed d (congrArg State.sketch charts.state_eq)) ?_
  rintro entry c ⟨-, rfl, -⟩
  refine .bind_ofExcept (fun _ _ => unfollowed c rfl) fun status _ => ?_
  refine .bind (((follow_ends known task route status).with_moves (follow_runs c _)).orIll
    fun d left => left.elim (unfollowed d) (cut status d)) ?_
  rintro _ d ⟨moves, -, followed⟩
  refine .bind (.forM keeps (start status d followed moves) fun next rest d kept => ?_)
    fun _ d kept =>
    .bind_getState ?_
  · exact .bind (round next rest d kept) fun _ e kept => .pure kept
  · dsimp only
    split
    · refine .bind_modifyState _ (.pure ⟨d, kept, ?_⟩)
      -- That a task is among the last ones is not part of the sketch.
      exact (State.sketch_updateEntry (g := id) (by intro _; rfl) d.state index).trans
        (by rw [State.updateEntry, List.modify_id])
    · exact .pure ⟨d, kept, rfl⟩

theorem commands_runs [Engine] (depth index : Nat) (commands : List (Command × Nat))
    (grounded : c.state.Grounded) : Runs Moves (do
      commands.forM fun next => do let _ ← updateWithin depth next.1.name next.2 (.command next.1)
      if (← getState).status.isCompleted then modifyEntry index fun e => { e with terminal := true }
      return index) c fun _ _ => True := by
  refine .bind (.forM fun next _ d moves => ?_) fun _ d _ _ => .bind_getState ?_
  · exact .bind (updateWithin_runs depth (Moves.grounded moves grounded) (isWord_command next.1))
      fun _ _ _ _ =>
      .pure trivial
  · dsimp only
    split
    · exact .bind (close_runs d index) fun _ _ _ _ => .pure trivial
    · exact .pure trivial

theorem carryOn_runs [Engine] (depth index : Nat) (answer : Option (List (Command × Nat)))
    (grounded : c.state.Grounded) :
    Runs Moves (carryOn depth task route index answer) c fun _ _ => True := by
  unfold carryOn
  cases answer with
  | none =>
    exact (updateWithin_runs depth grounded (isWord_command .retry)).weaken fun _ _ _ _ => trivial
  | some commands =>
    refine .bind (entryAt_runs c index).quietly.moves ?_
    rintro entry d moves -
    refine .bind_ofExcept fun status _ => .bind (follow_runs d _) fun _ d₁ moves₁ _ => ?_
    exact commands_runs depth index commands (moves₁.grounded (moves.grounded grounded))

/-- The workflow follows a task and commands are carried out, each as it is carried out on its
own. -/
theorem carryOn_ensues [Engine] (task : String) (route index depth : Nat)
    (commands : List (Command × Nat)) (grounded : c.state.Grounded) (known : c.graph? = some g)
    (carried : ∀ (next : Command × Nat) (d : Conductor), Moves c d →
      State.Updates g depth next.1.name next.2 (.command next.1) d.state.sketch
        (Conducting.after (updateWithin depth next.1.name next.2 (.command next.1))
          d).state.sketch) :
    let Left : Conductor → Prop := fun d => State.Ensues g task route
      (fun next => State.Updates g depth next.1.name next.2 (.command next.1)) commands
      c.state.sketch d.state.sketch
    Ends (carryOn depth task route index (some commands)) c (fun _ d => Left d) Left := by
  intro Left
  let carries : Command × Nat → State → State → Prop := fun next =>
    State.Updates g depth next.1.name next.2 (.command next.1)
  let Kept : List (Command × Nat) → Conductor → Prop := fun rest d => Moves c d ∧
    ∃ status followed done, commands = done ++ rest ∧
      State.Followed g task route status c.state.sketch followed ∧
      Conducting.Chained carries done followed d.state.sketch
  refine (carryOn_ends Kept depth known (fun d same => .inl same) ?_ ?_ ?_).weaken ?_
    fun _ holds => holds
  · exact fun status d follows => .inr ⟨status, _, [], follows, List.nil_prefix, rfl⟩
  · exact fun status d follows moves => ⟨moves, status, _, [], rfl, follows, rfl⟩
  · rintro next rest d ⟨moves, status, followed, done, rfl, follows, chained⟩
    have each :=
      (Ends.of_after (fun e => carries next d.state.sketch e.state.sketch)
        (carried next d moves)).with_moves
      (updateWithin_runs depth (moves.grounded grounded) (isWord_command next.1))
    refine each.weaken ?_ fun e carried => ?_
    · rintro _ e ⟨further, -, carried⟩
      exact ⟨moves.trans further, status, followed, done ++ [next], by simp, follows,
        chained.concat carried⟩
    · exact .inr ⟨status, followed, done ++ [next], follows, by simp, chained.concat carried⟩
  · rintro _ d ⟨last, ⟨-, status, followed, done, split, follows, chained⟩, same⟩
    rw [List.append_nil] at split
    refine .inr ⟨status, followed, done, follows, split ▸ List.prefix_refl _, ?_⟩
    rw [same]
    exact chained

theorem updates_after [Engine] (depth : Nat) (task : String) (route : Nat)
    (grounded : c.state.Grounded) (word : e.status.IsWord) (known : c.graph? = some g) :
    State.Updates g depth task route e c.state.sketch
      (Conducting.after (updateWithin depth task route e) c).state.sketch := by
  induction depth generalizing c task route e with
  | zero => rfl
  | succ depth ih =>
    let Left : Conductor → Prop := fun d =>
      State.Updates g (depth + 1) task route e c.state.sketch d.state.sketch
    suffices Ends (updateWithin (depth + 1) task route e) c (fun _ d => Left d) Left from
      this.after (fun _ _ left => left) fun _ left => left
    refine updateWithin_ends depth grounded word known (fun d refused => .inl refused) ?_ ?_
    · rintro index taken d takes (same | ⟨old, new, turned, turns, stops⟩)
      · exact .inr ⟨index, taken, takes, .inl same⟩
      · exact .inr ⟨index, taken, takes, .inr ⟨old, new, turned, turns, .inl stops⟩⟩
    intro index taken old new turned answer c₁ takes turns reacts moves
    have grounded₁ := moves.grounded grounded
    have known₁ := moves.graph_eq known
    cases answer with
    | none =>
      have again := ih task route grounded₁ (isWord_command .retry) known₁
      have left {d : Conductor} (updates : State.Updates g depth task route (.command .retry)
          c₁.state.sketch d.state.sketch) : Left d :=
        .inr ⟨index, taken, takes, .inr ⟨old, new, turned, turns, .inr ⟨_, .inl ⟨reacts, updates⟩⟩⟩⟩
      exact Ends.of_after Left (left again)
    | some commands =>
      have ensues := carryOn_ensues task route index depth commands grounded₁ known₁
        fun next d later =>
        ih next.1.name next.2 (later.grounded grounded₁) (isWord_command next.1)
          (later.graph_eq known₁)
      have left {d : Conductor} (ensued : State.Ensues g task route
          (fun next => State.Updates g depth next.1.name next.2 (.command next.1)) commands
          c₁.state.sketch d.state.sketch) : Left d :=
        .inr ⟨index, taken, takes,
          .inr ⟨old, new, turned, turns, .inr ⟨_, .inr ⟨commands, reacts, ensued⟩⟩⟩⟩
      exact ensues.weaken (fun _ _ ensued => left ensued) fun _ ensued => left ensued

end Conductor

end Orchestration
