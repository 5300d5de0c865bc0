import Orchestration.Conductor.Update
import Orchestration.Proofs.Course.Offer
import Orchestration.Proofs.Transitions

/-!
The course of a conductor that takes events about tasks.

What an event is about is an entry of the task on the route that was named, and what is staged after
it holds what the entry holds, or what was published last.
-/

namespace Orchestration

open Conducting (Runs)

namespace Conductor

variable {c : Conductor} {task : String} {route index : Nat} {staged : Option Staged} {e : Event}

/-! ### Entries -/

theorem retryFor_runs [Engine] (grounded : c.state.Grounded) (task : String) (indices : List Nat) :
    Runs Quietly (retryFor task indices) c fun _ _ => True := by
  unfold retryFor
  refine .bind (graph_runs c).quietly ?_
  rintro g d _ ⟨charts, -⟩
  refine .bind_ofExcept fun retries _ => ?_
  split
  · refine .bind_ofExcept fun policy _ => ?_
    dsimp only
    have still : d.state.Grounded := charts.state_eq ▸ grounded
    refine .bind (context_runs still indices) fun found d _ _ => ?_
    exact .bind_ofExcept fun _ _ => .bind_ofExcept fun _ _ => .pure trivial
  · exact .pure trivial

theorem result_share {α : Type} (v : α) (c : Conductor) :
    Conducting.result (share v) c =
      (.ok ⟨c.state.nextMark, v⟩,
        { c with state := { c.state with nextMark := c.state.nextMark + 1 } }) := rfl

theorem share_runs {α : Type} (grounded : c.state.Grounded) (v : α) :
    Runs Quietly (share v) c fun shared d =>
      shared.value = v ∧ Contexts.Taken d.state.nextMark shared.mark :=
  .of_result (result_share v c) (.single (.state (.share c.state)))
    ⟨rfl, grounded.positive, Nat.lt_succ_self _⟩

theorem heldOr_runs {α : Type} (grounded : c.state.Grounded) {held : Shared (List α)}
    (taken : Contexts.Taken c.state.nextMark held.mark) (own : List α) :
    Runs Quietly (heldOr held own) c fun shared d =>
      shared.value = (if held.value.isEmpty then own else held.value) ∧
        Contexts.Taken d.state.nextMark shared.mark := by
  unfold heldOr
  split
  · exact share_runs grounded own
  · exact .pure ⟨rfl, taken⟩

theorem shareRetry_runs (grounded : c.state.Grounded) (retry : Option Value) :
    Runs Quietly (shareRetry retry) c fun shared d =>
      ∀ one ∈ shared, Contexts.Taken d.state.nextMark one.mark := by
  unfold shareRetry
  split
  case h_1 policy =>
    refine .bind (share_runs grounded policy) fun one d _ taken => .pure fun other mem => ?_
    cases mem
    exact taken.2
  case h_2 => exact .pure fun one mem => by cases mem

theorem requireTask_runs (c : Conductor) (task : String) :
    Runs Charts (requireTask task) c fun _ _ => True := by
  unfold requireTask
  refine .bind (graph_runs c) fun g d _ _ => ?_
  split
  · exact .throw _
  · exact .pure trivial

theorem addEntry_runs [Engine] {contexts : Shared (List Nat)} {prev : Shared (List (String × Nat))}
    (grounded : c.state.Grounded) (task : String) (held : c.state.Held route contexts prev none) :
    Runs Moves (addEntry task route contexts prev) c fun _ d =>
      d.state.outline = c.state.outline.addEntry (State.freshEntry task route) := by
  unfold addEntry
  refine .bind (requireTask_runs c task).quietly.moves ?_
  rintro _ c₁ moves₁ ⟨quiet₁, -⟩
  have held₁ := held.grow moves₁.grows
  have grounded₁ := moves₁.grounded grounded
  refine .bind (heldOr_runs grounded₁ held₁.contextsMark [0]).moves ?_
  rintro reads c₂ moves₂ ⟨quiet₂, sameReads, readsMark⟩
  have held₂ := held₁.grow moves₂.grows
  have grounded₂ := moves₂.grounded grounded₁
  rw [held.reads.isEmpty_eq_false] at sameReads
  refine .bind (heldOr_runs grounded₂ held₂.prevMark []).moves ?_
  rintro links c₃ moves₃ ⟨quiet₃, sameLinks, linksMark⟩
  have held₃ := held₂.grow moves₃.grows
  have grounded₃ := moves₃.grounded grounded₂
  have linksValue : links.value = prev.value := by
    cases empty : prev.value with
    | nil => rw [sameLinks, empty]; rfl
    | cons => rw [sameLinks, empty]; rfl
  refine .bind (retryFor_runs grounded₃ task reads.value).moves ?_
  rintro policy c₄ moves₄ ⟨quiet₄, -⟩
  have grounded₄ := moves₄.grounded grounded₃
  refine .bind (shareRetry_runs grounded₄ policy).moves ?_
  rintro retry c₅ moves₅ ⟨quiet₅, retryMark⟩
  have later : c₃.state.Grows c₅.state := moves₄.grows.trans moves₅.grows
  have held₅ := held₃.grow later
  have adds : c₅.state.Held route reads links retry :=
    { route := held₅.route
      reads := by rw [sameReads]; exact held₅.reads
      links := by rw [linksValue]; exact held₅.links
      named := by rw [linksValue]; exact held₅.named
      contextsMark := readsMark.mono (moves₃.grows.trans later).marks
      prevMark := linksMark.mono later.marks
      retryMark := retryMark }
  have quiet : Quietly c c₅ := quiet₁.trans (quiet₂.trans (quiet₃.trans (quiet₄.trans quiet₅)))
  refine .bind_move _ (.add c₅.state task route reads links retry adds) (.bind_getState (.pure ?_))
  rw [State.outline_addEntry, quiet.outline_eq]
  rfl

theorem addStagedEntry_runs [Engine] (grounded : c.state.Grounded)
    (sound : ∀ t ∈ staged, t.route = route ∧ c.state.SoundStaged t) :
    Runs Moves (addStagedEntry task staged) c fun _ d =>
      d.state.outline = c.state.outline.addEntry (State.freshEntry task route) := by
  unfold addStagedEntry
  split
  case h_1 t =>
    obtain ⟨rfl, stagedSound⟩ := sound t rfl
    refine addEntry_runs grounded task { stagedSound.held with retryMark := ?_ }
    intro shared mem
    cases mem
  case h_2 => exact .throw _

theorem knownEntry_runs [Engine] (grounded : c.state.Grounded)
    (sound : ∀ t ∈ staged, t.route = route ∧ c.state.SoundStaged t) :
    Runs Moves (knownEntry task route staged) c fun index d =>
      (d = c ∧ c.state.index? task route = some index ∧ Command.isName task = false) ∨
        d.state.outline = c.state.outline.addEntry (State.freshEntry task route) := by
  unfold knownEntry
  refine .bind_getState ?_
  split
  case h_1 i found =>
    split
    · exact (addStagedEntry_runs grounded sound).weaken fun _ _ _ added => .inr added
    case isFalse other => exact .pure (.inl ⟨rfl, found, by simpa using other⟩)
  case h_2 => exact (addStagedEntry_runs grounded sound).weaken fun _ _ _ added => .inr added

theorem newest_of_added {d : Conductor} (known : Nat)
    (added : d.state.outline = c.state.outline.addEntry (State.freshEntry task route)) :
    (d.state.index? task route).getD known = c.state.outline.sequence.length ∧
      (d.state.sequence[(d.state.index? task route).getD known]?.map (·.isCompleted)).getD
      false = false := by
  have newest : (d.state.index? task route).getD known = c.state.outline.sequence.length := by
    rw [← State.index?_outline, added]
    simp [State.index?, State.addEntry, State.freshEntry]
  have completed (i : Nat) : d.state.sequence[i]?.map (·.isCompleted) =
      d.state.outline.sequence[i]?.map (·.isCompleted) := by
    rw [State.getElem?_outline, Option.map_map]
    rfl
  refine ⟨newest, ?_⟩
  rw [completed, newest, added]
  simp [State.addEntry, State.freshEntry, Entry.isCompleted, Entry.hasStatus, Status.completed]

theorem entryFor_runs [Engine] (e : Event)
    (grounded : c.state.Grounded) (sound : ∀ t ∈ staged, t.route = route ∧ c.state.SoundStaged t) :
    Runs Moves (entryFor task route e staged) c fun index d =>
      State.Opened task route e c.state.outline index d.state.outline := by
  unfold entryFor
  refine .bind (knownEntry_runs grounded sound) fun known d moves either => ?_
  refine .bind_getState (.bind_getState ?_)
  dsimp only
  rcases either with ⟨rfl, found, other⟩ | added
  · rw [found, Option.getD_some]
    split
    · refine .bind (addStagedEntry_runs grounded sound) fun _ d' _ added =>
        .bind_getState (.pure (.inr ?_))
      exact ⟨(newest_of_added known added).1, added⟩
    case isFalse notAgain =>
      refine .pure (.inl ⟨rfl, found, other, fun entry there => ?_⟩)
      rw [State.getElem?_outline] at there
      obtain ⟨own, same, rfl⟩ := Option.map_eq_some_iff.mp there
      rw [same] at notAgain
      simpa using notAgain
  · obtain ⟨newest, fresh⟩ := newest_of_added known added
    rw [fresh]
    exact .pure (.inr ⟨newest, added⟩)

theorem entryAt_runs (c : Conductor) (index : Nat) :
    Runs Charts (entryAt index) c fun e d => d = c ∧ c.state.sequence[index]? = some e := by
  unfold entryAt
  refine .bind_getState ?_
  split
  case h_1 e found => exact .pure ⟨rfl, found⟩
  case h_2 => exact .throw _

theorem result_entryAt {c : Conductor} {entry : Entry}
    (found : c.state.sequence[index]? = some entry) :
    Conducting.result (entryAt index) c = (.ok entry, c) := by
  unfold entryAt
  rw [Conducting.result_bind_of_ok (Conducting.result_getState c), found]
  rfl

/-! ### What an event does to a task -/

theorem noteItem_runs (c : Conductor) (known : e.status.IsWord) {t : Staged}
    (items : ∀ items ∈ t.items, ∀ status ∈ items, status.IsWord) :
    Runs Moves (noteItem t e) c fun _ d => State.Restaged t.task t.route c.state d.state := by
  unfold noteItem
  split
  case h_1 index _ =>
    refine .bind_ofExcept fun old found => .bind_ofExcept fun place _ => ?_
    have oldKnown : ∀ status ∈ old, status.IsWord := by
      refine items old ?_
      simp only [State.itemsOf] at found
      split at found
      case h_1 list same =>
        cases found
        exact same
      case h_2 => cases found
    refine .move _ (.restage c.state t.task t.route _ ?_) (State.restaged_updateStaged ..)
    constructor
    case items =>
      intro _ _ new mem status inNew
      cases mem
      rcases List.mem_or_eq_of_mem_set inNew with inOld | rfl
      · exact oldKnown status inOld
      · exact known
    all_goals
      intro _
      rfl
  case h_2 => exact .pure (.refl ..)

theorem noteStaged_runs (c : Conductor) (known : e.status.IsWord)
    (sound : ∀ t ∈ staged, t.task = task ∧ t.route = route ∧ c.state.SoundStaged t) :
    Runs Moves (noteStaged staged e) c fun _ d => State.Restaged task route c.state d.state := by
  unfold noteStaged
  split
  case h_1 t =>
    obtain ⟨rfl, rfl, stagedSound⟩ := sound t rfl
    dsimp only
    split
    · refine .bind_move _ (.unstage c.state t.task t.route) ?_
      refine (noteItem_runs _ known stagedSound.items).weaken fun _ _ _ noted => ?_
      exact (State.restaged_unstage c.state t.task t.route).trans noted
    · exact noteItem_runs c known stagedSound.items
  case h_2 => exact .pure (.refl ..)

theorem stageRetry_runs (grounded : c.state.Grounded)
    (there : c.state.places[index]? = some (task, route)) :
    Runs Moves (stageRetry task route index) c fun _ d =>
      State.Restaged task route c.state.outline d.state.outline ∧ d.state.hasReady = true := by
  unfold stageRetry
  refine .bind (entryAt_runs c index).quietly.moves ?_
  rintro entry d _ ⟨-, -, rfl, found⟩
  obtain ⟨_, same, -, rfl, sound⟩ := grounded.entryAt there
  cases found.symm.trans same
  split
  · exact .throw _
  case h_2 retry given =>
    refine .bind_ofExcept fun tally _ => ?_
    have accounts : State.Quiet d.state _ := .account d.state retry.mark (·.setField "tally" tally)
    refine .bind_move _ (.quiet accounts) (.bind_move _ (.unstage _ task entry.route) ?_)
    have grows₁ := accounts.grows
    have unstages :=
      State.Move.unstage (d.state.changeRetry retry.mark (·.setField "tally" tally))
        task entry.route
    have held₂ := (sound.held.grow grows₁).grow unstages.grows
    have grounded₂ := unstages.grounded (accounts.grounded grounded)
    refine .bind (heldOr_runs grounded₂ held₂.contextsMark [0]).moves ?_
    rintro reads d₃ moves₃ ⟨quiet₃, sameReads, readsMark⟩
    rw [sound.held.reads.isEmpty_eq_false] at sameReads
    have held₃ := held₂.grow moves₃.grows
    refine .move _ (.stage d₃.state task entry.route reads entry.prev true _ ?_) ⟨?_, ?_⟩
    · refine { held₃ with reads := ?_, contextsMark := readsMark, retryMark := ?_ }
      · rw [sameReads]
        exact held₃.reads
      · intro shared mem
        cases mem
        exact held₃.retryMark retry given
    · have restaged :=
        (State.restaged_unstage (d.state.changeRetry retry.mark (·.setField "tally" tally)) task
        entry.route).outline
      rw [accounts.outline_eq, ← quiet₃.outline_eq] at restaged
      exact restaged.trans (State.restaged_stage d₃.state ..).outline
    · refine State.hasReady_of_staged (List.mem_append_right _ (List.mem_singleton_self _)) rfl

theorem leaveStaging_runs (c : Conductor) (task : String) (route : Nat) (hasItems : Bool)
    (status : Status) : Runs Moves (leaveStaging task route hasItems status) c fun _ d =>
      State.Restaged task route c.state d.state := by
  unfold leaveStaging
  split
  · refine .bind_getState ?_
    dsimp only
    split
    · exact .throw _
    · refine .move _ (.restage c.state task route _ ?_) (State.restaged_updateStaged ..)
      constructor
      case items => exact fun _ known => known
      all_goals
        intro _
        rfl
  · exact .move _ (.unstage c.state task route) (State.restaged_unstage ..)

theorem completedContext_runs (grounded : c.state.Grounded) (index : Nat) (result : Value) :
    Runs Quietly (completedContext index result) c fun _ _ => True := by
  unfold completedContext
  refine .bind (entryAt_runs c index).quietly ?_
  rintro entry d _ ⟨-, rfl, -⟩
  refine .bind (context_runs grounded entry.contexts.value) fun own d _ _ =>
    .bind_ofExcept fun current _ => ?_
  exact (withState_runs d current).weaken fun _ _ _ _ => trivial

/-! ### Transitions -/

theorem routeFor_runs (c : Conductor) (edge : Edge) (there : route < c.state.routes.length) :
    Runs Steadily (routeFor edge route) c fun way d => way < d.state.routes.length := by
  unfold routeFor
  refine .bind (tasks_runs c).quietly.steadily ?_
  rintro tasks d _ ⟨-, rfl⟩
  refine .bind_ofExcept fun flow _ => .bind_ofExcept fun split _ => ?_
  refine .bind (graph_runs d).quietly.steadily ?_
  rintro g d' _ ⟨charts, -⟩
  have still : route < d'.state.routes.length := charts.state_eq ▸ there
  split
  · exact .pure still
  · refine .bind_getState ?_
    split
    · exact .throw _
    case h_2 old found =>
      dsimp only
      split
      · exact .pure still
      case isFalse fresh =>
        have branches : State.Move d'.state _ :=
          .branch d'.state route old (State.transitionKey edge.source edge.key) found
            (by simpa using fresh)
        refine .bind_modifyState _ ⟨.single (.state branches), rfl⟩ (.bind_getState (.pure ?_))
        simp

theorem withoutFirst_eq_ok {count : Nat} {indices more : List Nat}
    (readable : Readable count indices) (taken : withoutFirst indices = .ok more) :
    0 ∉ more ∧ ∀ i ∈ more, i < count := by
  unfold withoutFirst at taken
  split at taken
  · cases taken
    exact ⟨readable.zero_notMem_erase, fun i mem => readable.below i (List.mem_of_mem_erase mem)⟩
  · cases taken

/-- What is staged next reads what the entry before it reads, and leads back to it. -/
theorem stageNext_runs {task target : String} {index route way : Nat}
    {indices : List Nat} (edge : Edge) (grounded : c.state.Grounded)
    (there : c.state.places[index]? = some (task, way)) (routed : route < c.state.routes.length)
    (readable : Readable c.state.contexts.items.length indices) :
    Runs Moves (stageNext task edge index target route indices) c fun _ d =>
      State.Restaged target route c.state.outline d.state.outline ∧
        ∃ x, d.state.outline.staged? target route = some x ∧ x.completed = false := by
  unfold stageNext
  refine .bind_getState ?_
  split
  case h_1 t found =>
    refine .bind_ofExcept fun more taken => ?_
    obtain ⟨positive, below⟩ := withoutFirst_eq_ok readable taken
    refine .bind_quieted _ (.read c.state t.contexts.mark more positive below) fun d₁ quiet₁ => ?_
    have there₁ := quiet₁.grows.place there
    refine .bind_quieted _ (.link d₁.state t.prev.mark index task way edge.key there₁)
      fun d₂ quiet₂ => ?_
    have same : d₂.state.outline = c.state.outline := quiet₂.outline_eq.trans quiet₁.outline_eq
    refine .move _ (.restage d₂.state target route _ ?_) ⟨?_, ?_⟩
    · constructor
      case items =>
        intro _ _ items mem
        cases mem
      all_goals
        intro _
        rfl
    · exact same ▸ (State.restaged_updateStaged d₂.state ..).outline
    · refine ⟨{ t.outline with completed := false }, ?_, rfl⟩
      rw [State.outline_updateStaged (g := fun x => { x with completed := false })
        (by intro _; rfl),
        State.staged?_updateStaged _ _ _ (by intro _; rfl), same, State.staged?_outline, found]
      rfl
  case h_2 missing =>
    rw [readable.isEmpty_eq_false]
    refine .bind (share_runs grounded indices).moves ?_
    rintro reads d₁ moves₁ ⟨quiet₁, sameReads, readsMark⟩
    have grounded₁ := moves₁.grounded grounded
    refine .bind (share_runs grounded₁ [(State.transitionKey task edge.key, index)]).moves ?_
    rintro links d₂ moves₂ ⟨quiet₂, sameLinks, linksMark⟩
    have same : d₂.state.outline = c.state.outline := quiet₂.outline_eq.trans quiet₁.outline_eq
    have grows := moves₁.grows.trans moves₂.grows
    refine .move _ (.stage d₂.state target route reads links false none ?_) ⟨?_, ?_⟩
    · exact
        { route := Nat.lt_of_lt_of_le routed grows.routes.length_le
          reads := by
            rw [sameReads]
            exact readable.mono grows.contexts
          links := by
            rw [sameLinks]
            intro link mem
            rw [List.mem_singleton.mp mem]
            exact ⟨task, way, edge.key, grows.place there, rfl⟩
          named := by
            rw [sameLinks]
            simp
          contextsMark := readsMark.mono moves₂.grows.marks
          prevMark := linksMark
          retryMark := by
            intro shared mem
            cases mem }
    · exact same ▸ (State.restaged_stage d₂.state ..).outline
    · refine ⟨⟨target, route, ⟨0, []⟩, ⟨0, []⟩, false, none, none, false, false⟩, ?_, rfl⟩
      have nothing : c.state.outline.staged.find? (·.isAt target route) = none := by
        have unstaged := State.staged?_outline c.state target route
        rw [missing] at unstaged
        exact unstaged
      rw [State.outline_stage, same, State.stage, State.staged?, List.find?_append, nothing]
      simp [Staged.isAt]

theorem publish_runs (grounded : c.state.Grounded)
    (there : c.state.places[index]? = some (task, route)) (key : String)
    (published : List (Value × Node)) :
    Runs Quietly (publish index key published) c fun indices d =>
      Readable d.state.contexts.items.length indices := by
  unfold publish
  refine .bind (entryAt_runs c index).quietly ?_
  rintro entry d _ ⟨-, rfl, found⟩
  obtain ⟨_, same, -, -, sound⟩ := grounded.entryAt there
  cases found.symm.trans same
  dsimp only
  split
  · exact .pure sound.held.reads
  · refine .bind_getState (.bind_quietMove _ (.publish d.state published) ?_)
    have longer : (d.state.contexts.publish published).items.length =
        d.state.contexts.items.length + 1 := by
      simp [Contexts.publish]
    have new : d.state.contexts.items.length <
        (d.state.contexts.publish published).items.length := by
      rw [longer]
      exact Nat.lt_succ_self _
    refine .bind_quietMove _ (.out _ index key _ new) (.pure ?_)
    have reads := sound.held.reads.mono (Nat.le_of_lt new)
    refine reads.append ?_ ?_
    · intro mem
      exact Nat.ne_of_lt sound.held.reads.positive (List.mem_singleton.mp mem)
    · intro i mem
      rw [List.mem_singleton.mp mem]
      exact new

theorem restages_ready (ready : Bool) : Staged.Restages fun t => { t with ready := ready } where
  task _ := rfl
  route _ := rfl
  contexts _ := rfl
  prev _ := rfl
  retry _ := rfl
  items _ known := known

theorem restages_runOnFail (runOnFail : Bool) :
    Staged.Restages fun t => { t with runOnFail := runOnFail } where
  task _ := rfl
  route _ := rfl
  contexts _ := rfl
  prev _ := rfl
  retry _ := rfl
  items _ known := known

theorem prepare_runs (grounded : c.state.Grounded)
    (there : c.state.places[index]? = some (task, route)) (edge : Edge)
    (published : List (Value × Node)) :
    Runs Moves (prepare task route index edge published) c fun (way, _) d =>
      State.Restaged edge.target way c.state.outline d.state.outline ∧ ∀ g, c.graph? = some g →
        State.Prepared g route edge way c.state.outline d.state.outline := by
  unfold prepare
  refine .bind (publish_runs grounded there _ published).moves ?_
  rintro indices c₁ moves₁ ⟨quiet₁, readable⟩
  have grounded₁ := moves₁.grounded grounded
  have there₁ := moves₁.grows.place there
  obtain ⟨entry, -, -, rfl, sound⟩ := grounded₁.entryAt there₁
  refine .bind (routeFor_runs c₁ edge sound.held.route).moved ?_
  rintro way c₂ moves₂ ⟨steady₂, routed⟩
  have there₂ := moves₂.grows.place there₁
  refine .bind (stageNext_runs edge (moves₂.grounded grounded₁) there₂ routed
    (readable.mono moves₂.grows.contexts)) ?_
  rintro _ c₃ moves₃ ⟨restaged, x, found, fresh⟩
  rw [steady₂.2, quiet₁.outline_eq] at restaged
  refine .bind (inbound_runs c₃ edge.target entry.route).quietly.moves ?_
  rintro met c₄ moves₄ ⟨_, charts, g₄, known₄, comesIn⟩
  refine .bind_move _ (.restage c₄.state edge.target way _ (restages_ready _)) (.pure ?_)
  have changed := State.outline_updateStaged (f := fun x => { x with ready := met == .satisfied })
    (g := fun x => { x with ready := met == .satisfied }) (by intro _; rfl) c₃.state edge.target way
  rw [charts.state_eq, changed]
  refine ⟨restaged.trans (State.restaged_updateStaged ..), fun g known => ?_⟩
  obtain rfl : g₄ = g := by
    have moves := moves₁.trans (moves₂.trans (moves₃.trans moves₄))
    exact Option.some.inj (known₄.symm.trans (Moves.graph_eq moves known))
  refine State.prepared_updateStaged restaged found fresh ?_
  rw [State.isMet_outline]
  exact State.isMet_of_inboundIn comesIn

theorem note_runs (c : Conductor) (index : Nat) (edge : Edge) (went : Bool) :
    Runs Moves (modifyEntry index fun e =>
      { e with next := putNamed e.next (State.transitionKey edge.target edge.key) went }) c
        fun _ d =>
      State.Noted index edge went c.state.outline d.state.outline ∧
        d.state.outline.status = c.state.outline.status ∧
        d.state.outline.staged = c.state.outline.staged := by
  refine .move _ (.note c.state index _ went) ⟨⟨rfl, ?_⟩, rfl, rfl⟩
  exact congrArg State.sequence (State.outline_updateEntry (by intro _; rfl) c.state index)

theorem goAlong_runs [Engine] (grounded : c.state.Grounded)
    (there : c.state.places[index]? = some (task, route)) (described : Task) (context : Value)
    (edge : Edge) :
    Runs Moves (goAlong task route index described context edge) c fun found d => ∀ g,
      c.graph? = some g →
      State.WentAlong g route index edge found c.state.outline d.state.outline := by
  unfold goAlong
  dsimp only
  split
  case h_1 e _ =>
    refine .bind (logError_runs c e _).moves ?_
    rintro _ d _ ⟨quiet, -⟩
    refine .bind (fail_runs d) fun _ d' _ failed => .pure fun g _ => ?_
    rw [failed, quiet.outline_eq]
    exact .of_failed (.of_failed (.refl index _)) rfl
  case h_2 taken _ =>
    refine .bind (note_runs c index edge taken) ?_
    rintro _ c₁ moves₁ ⟨noted, status, staged⟩
    split
    case isTrue no =>
      obtain rfl : taken = false := by simpa using no
      exact .pure fun g _ => ⟨noted.renoted (.inl status), fun _ => .inl ⟨noted, staged, rfl⟩⟩
    case isFalse yes =>
      obtain rfl : taken = true := by simpa using yes
      refine .bind (graph_runs c₁).quietly.moves ?_
      rintro _ c₂ moves₂ ⟨quiet₂, -⟩
      refine .bind_ofExcept fun vertex _ => .bind_ofExcept fun number _ =>
        .bind_ofExcept fun out _ => ?_
      split
      · refine .bind (logErrors_runs c₂ out.errors _).moves ?_
        rintro _ d _ ⟨quiet, -⟩
        refine .bind (fail_runs d) fun _ d' _ failed => .pure fun g _ => ?_
        rw [failed, quiet.outline_eq, quiet₂.outline_eq]
        exact .of_failed (.of_failed (noted.renoted (.inl status))) rfl
      · have moves : Moves c c₂ := moves₁.trans moves₂
        have there₂ := moves.grows.place there
        refine .bind (prepare_runs (moves.grounded grounded) there₂ edge out.published) ?_
        rintro ⟨way, ready⟩ d _ ⟨restaged, prepared⟩
        rw [quiet₂.outline_eq] at restaged prepared
        have notedStill := noted.restage restaged
        have renoted := notedStill.renoted (.inl (restaged.status.trans status))
        have goes (g : Graph) (known : c.graph? = some g) :=
          (prepared g (moves.graph_eq known)).of_staged staged
        cases named : Command.ofName? edge.target with
        | some command =>
          refine .pure fun g known => ⟨renoted, fun _ => .inr ⟨notedStill, way, goes g known, ?_⟩⟩
          intro one mem
          rw [List.mem_singleton.mp mem]
          exact ⟨Command.name_of_ofName? named, rfl⟩
        | none =>
          exact .pure fun g known =>
            ⟨renoted, fun _ => .inr ⟨notedStill, way, goes g known, by simp⟩⟩

theorem runOnFail_runs (c : Conductor) (tasks : List (String × Nat)) :
    Runs Moves (tasks.forM fun (task, route) =>
      modifyState (·.updateStaged task route fun t => { t with runOnFail := true })) c
      fun _ d => d.state.outline = c.state.outline := by
  refine .forM_keep (·.state.outline) fun next _ d _ => ?_
  refine .move _ (.restage d.state next.1 next.2 _ (restages_runOnFail true)) ?_
  rw [State.outline_updateStaged (g := id) (by intro _; rfl), State.updateStaged, List.modify_id]

theorem goEach_runs [Engine] (grounded : c.state.Grounded)
    (there : c.state.places[index]? = some (task, route)) (described : Task) (context : Value)
    (edges : List Edge) :
    Runs Moves (edges.mapM (goAlong task route index described context)) c fun found d => ∀ g,
      c.graph? = some g → Conducting.ChainedAnswers (State.WentAlong g route index) edges found
      c.state.outline d.state.outline := by
  refine (Runs.mapM_chained fun edge _ d moves => (?_ : Runs Moves _ d fun found e =>
    ∀ g, d.graph? = some g → e.graph? = some g ∧
      State.WentAlong g route index edge found d.state.outline e.state.outline)).weaken ?_
  · have still := (Moves.grows moves).place there
    refine (goAlong_runs (Moves.grounded moves grounded) still described context edge).weaken ?_
    exact fun found e later along g known => ⟨Moves.graph_eq later known, along g known⟩
  · intro found d _ chained g known
    exact chained.map (·.graph? = some g) (·.state.outline)
      (fun _ _ _ _ known along => along g known) known

theorem goAll_runs [Engine] (grounded : c.state.Grounded)
    (there : c.state.places[index]? = some (task, route)) (described : Task) (context : Value)
    (edges : List Edge) :
    Runs Moves (goAll task route index described context edges) c fun commands d => ∀ g,
      c.graph? = some g →
      State.Departs g task route index c.state.outline → edges = g.nextTransitions task →
      State.WentOn g route index edges commands c.state.outline d.state.outline := by
  unfold goAll
  refine .bind (goEach_runs grounded there described context edges) fun found d _ chained => ?_
  have goes (g : Graph) (known : c.graph? = some g)
      (departs : State.Departs g task route index c.state.outline)
      (all : edges = g.nextTransitions task) :
      State.WentOn g route index edges (found.flatMap (·.commands)) c.state.outline
        d.state.outline :=
    State.wentOn_of_chained (.refl g route index _) (chained g known) departs fun e mem => all ▸ mem
  dsimp only
  split
  · refine .bind (runOnFail_runs d _) fun _ e _ unchanged => .pure ?_
    rw [unchanged]
    exact goes
  · exact .pure goes

theorem close_runs (c : Conductor) (index : Nat) :
    Runs Moves (modifyEntry index fun e => { e with terminal := true }) c fun _ d =>
      d.state.outline = c.state.outline := by
  refine .move _ (.close c.state index true) ?_
  rw [State.outline_updateEntry (g := id) (by intro _; rfl), State.updateEntry, List.modify_id]

theorem goOn_runs [Engine] (grounded : c.state.Grounded)
    (there : c.state.places[index]? = some (task, route)) (described : Task) (context : Value) :
    Runs Moves (goOn task route index described context) c fun commands d => ∀ g,
      c.graph? = some g → State.Departs g task route index c.state.outline →
      State.WentOn g route index (g.nextTransitions task) commands c.state.outline
      d.state.outline := by
  have rest {d : Conductor} (g : Graph) (moves : Moves c d)
      (same : d.state.outline = c.state.outline) (found : d.graph? = some g) :
      Runs Moves (goAll task route index described context (g.nextTransitions task)) d
        fun commands e =>
        ∀ g, c.graph? = some g → State.Departs g task route index c.state.outline →
          State.WentOn g route index (g.nextTransitions task) commands c.state.outline
          e.state.outline := by
    have still := moves.grows.place there
    refine (goAll_runs (moves.grounded grounded) still described context _).weaken ?_
    intro commands e _ goes g' known departs
    cases (moves.graph_eq known).symm.trans found
    exact same ▸ goes g found (same ▸ departs) rfl
  unfold goOn
  refine .bind (graph_runs c).quietly.moves ?_
  rintro g d moves ⟨quiet, -, known⟩
  dsimp only
  split
  · refine .bind (close_runs d index) fun _ e closes same => ?_
    exact rest g (moves.trans closes) (same.trans quiet.outline_eq) (Moves.graph_eq closes known)
  · exact rest g moves quiet.outline_eq known

/-! ### Reports -/

theorem receive_runs [Engine] (grounded : c.state.Grounded) (known : e.status.IsWord) :
    Runs Moves (receive task route e) c fun index d =>
      State.Received task route e c.state.outline index d.state.outline := by
  have sound := grounded.sound task route
  unfold receive
  refine .bind_getState (.bind_getState ?_)
  dsimp only
  split
  · exact .throw _
  refine .bind (entryFor_runs e grounded fun t found => (sound t found).2)
    fun index d moves opened => ?_
  have soundStill : ∀ t ∈ c.state.staged? task route, t.task = task ∧ t.route = route ∧
      d.state.SoundStaged t := by
    intro t found
    obtain ⟨tasks, routes, staged⟩ := sound t found
    exact ⟨tasks, routes, staged.grow moves.grows⟩
  refine .bind (noteStaged_runs d known soundStill) fun _ d₁ _ restaged => ?_
  have received : State.Received task route e c.state.outline index d₁.state.outline :=
    ⟨d.state.outline, opened, restaged.outline⟩
  split
  · refine .bind (logEntry_runs d₁ _ _ _ _ _).moves ?_
    rintro _ d₂ _ ⟨quiet, -⟩
    refine .pure ?_
    rw [quiet.outline_eq]
    exact received
  · exact .pure received

/-- What a task that is completed has gone on to. If it is to be tried again it has not gone on. -/
theorem complete_runs [Engine] (grounded : c.state.Grounded)
    (there : c.state.places[index]? = some (task, route)) (spec : Spec) (e : Event)
    (old new : Status) :
    Runs Moves (complete task route index spec e old new) c fun answer d => ∀ g, c.graph? = some g →
      State.Departs g task route index c.state.outline →
      ∃ left, State.Restaged task route c.state.outline left ∧
        (answer = none ∧ d.state.outline = left ∨
          ∃ commands, answer = some commands ∧
            if new ≠ old then State.WentOn g route index (g.nextTransitions task) commands left
              d.state.outline
            else d.state.outline = left ∧ commands = []) := by
  unfold complete
  refine .bind (leaveStaging_runs c task route spec.hasItems new) fun _ c₁ moves₁ restaged => ?_
  refine .bind (completedContext_runs (moves₁.grounded grounded) index _).moves ?_
  rintro context c₂ moves₂ ⟨quiet, -⟩
  have moves : Moves c c₂ := moves₁.trans moves₂
  have left := restaged.outline
  rw [← quiet.outline_eq] at left
  refine .bind_getState ?_
  refine .bind (entryAt_runs c₂ index).quietly.moves ?_
  rintro entry d _ ⟨-, -, rfl, -⟩
  refine .bind_ofExcept fun again _ => ?_
  split
  · exact .pure fun g _ _ => ⟨_, left, .inl ⟨rfl, rfl⟩⟩
  · split
    case isTrue different =>
      refine .bind_ofExcept fun described _ => ?_
      have still := moves.grows.place there
      refine .bind (goOn_runs (moves.grounded grounded) still described context)
        fun commands d' _ goes => .pure ?_
      intro g known departs
      refine ⟨_, left, .inr ⟨commands, rfl, ?_⟩⟩
      rw [if_pos (by simpa using different)]
      exact goes g (moves.graph_eq known) (departs.restage left)
    case isFalse same =>
      refine .pure fun g _ _ => ⟨_, left, .inr ⟨[], rfl, ?_⟩⟩
      rw [if_neg (by simpa using same)]
      exact ⟨rfl, rfl⟩

theorem tryEvent_runs (c : Conductor) (index : Nat) (e : Event) {entry : Entry}
    (found : c.state.sequence[index]? = some entry) :
    Runs Moves (tryState (·.advance index e)) c fun _ d => ∃ changed,
      d.state.sequence[index]? = some changed ∧ e.Leads entry.status changed.status ∧
      d.state.outline =
        c.state.outline.updateEntry index fun entry => { entry with status := changed.status } := by
  refine (tryAdvance_runs c index e).weaken fun _ d _ advanced => ?_
  obtain ⟨signal, answer, told, led, changed⟩ := State.advance_eq_ok found advanced.1
  have fits : ∀ command, e = .command command → signal = .command command := by
    rintro command rfl
    exact State.signalFor_command told
  refine ⟨{ entry with status := answer.getD entry.status }, ?_,
    ⟨signal, answer, fits, led, rfl⟩, ?_⟩
  · cases answer with
    | none => rw [changed]; exact found
    | some new =>
      rw [changed]
      change (c.state.sequence.modify index _)[index]? = _
      rw [List.getElem?_modify_eq, found]
      rfl
  · cases answer with
    | none =>
      rw [changed, State.updateEntry_eq_self (s := c.state.outline)]
      · rfl
      · rw [State.getElem?_outline, found]
        rfl
      · rfl
    | some new =>
      rw [changed]
      exact State.outline_updateEntry (by intro _; rfl) c.state index

theorem advance_runs [Engine] (grounded : c.state.Grounded)
    (latest : c.state.index? task route = some index) (spec : Spec) (e : Event) :
    Runs Moves (advance task route index spec e) c fun answer d => ∀ g,
      c.graph? = some g → g.Numbered →
      ∃ reacted old new, State.Reacted task route e index old new c.state.outline reacted ∧
        ((answer = none ∧ new.isCompleted = true ∧ d.state.outline = reacted) ∨
          ∃ commands, answer = some commands ∧
            State.GoesOn g task route index old new commands reacted d.state.outline) := by
  have there := grounded.indexed.index?_place latest
  unfold advance
  refine .bind (entryAt_runs c index).quietly.moves ?_
  rintro entry c _ ⟨-, -, rfl, found⟩
  refine .bind (tryEvent_runs c index e found) ?_
  rintro _ d₁ moves₁ ⟨changed, foundNow, leads, outline⟩
  have grounded₁ := moves₁.grounded grounded
  have there₁ := moves₁.grows.place there
  refine .bind (entryAt_runs d₁ index).quietly.moves ?_
  rintro _ d₁ _ ⟨-, -, rfl, again⟩
  cases foundNow.symm.trans again
  have reacts {left : State} (restaged : State.Restaged task route d₁.state.outline left)
      (ready : changed.status = .retrying → left.hasReady = true) :
      State.Reacted task route e index entry.status changed.status c.state.outline left :=
    { entry := ⟨entry.outline, by rw [State.getElem?_outline, found]; rfl, rfl⟩
      leads := leads
      restaged := outline ▸ restaged
      again := ready }
  have stays {left : State} (open_ : changed.status.isCompleted = false) (g : Graph) :
      State.GoesOn g task route index entry.status changed.status [] left left := by
    rw [State.GoesOn, if_neg fun both => by simp [open_] at both]
    exact ⟨rfl, rfl⟩
  dsimp only
  split
  case isTrue retries =>
    have retrying : changed.status = .retrying :=
      Status.eq_of_orUnset (by simpa using retries) (by decide)
    refine .bind (stageRetry_runs grounded₁ there₁) ?_
    rintro _ d₃ _ ⟨restaged, ready⟩
    rw [retrying, if_neg (by decide)]
    refine .pure fun g _ _ =>
      ⟨_, _, _, reacts restaged fun _ => ?_, .inr ⟨[], rfl, stays (by rw [retrying]; rfl) g⟩⟩
    rw [State.hasReady_outline]
    exact ready
  case isFalse other =>
    have noRetry : changed.status ≠ .retrying := fun same => other (by rw [same]; rfl)
    split
    case isTrue completed =>
      rw [Status.isCompleted_orUnset] at completed
      rw [Status.orUnset_of_isCompleted completed]
      refine (complete_runs grounded₁ there₁ spec e _ _).weaken
        fun answer d' _ finished g known numbered => ?_
      have latest₁ : d₁.state.index? task route = some index := by
        rw [← State.index?_outline, outline]
        exact latest
      obtain ⟨left, restaged, goes⟩ :=
        finished g (moves₁.graph_eq known) (.of_grounded numbered grounded₁ latest₁)
      refine ⟨left, _, _, reacts restaged fun same => (noRetry same).elim, ?_⟩
      rcases goes with ⟨none, same⟩ | ⟨commands, some, goes⟩
      · exact .inl ⟨none, completed, same⟩
      · refine .inr ⟨commands, some, ?_⟩
        simpa only [State.GoesOn, completed, true_and] using goes
    case isFalse open_ =>
      rw [Status.isCompleted_orUnset, Bool.not_eq_true] at open_
      exact .pure fun g _ _ =>
        ⟨_, _, _, reacts (.refl ..) fun same => (noRetry same).elim, .inr ⟨[], rfl, stays open_ g⟩⟩

theorem requireStatus_eq_ok {entry : Entry} {status : Status}
    (given : requireStatus entry = .ok status) : status = entry.status := by
  unfold requireStatus at given
  split at given
  · cases given
  · exact (Except.ok.inj given).symm

theorem isWord_command (command : Command) : (Event.command command).status.IsWord := by
  cases command <;> exact .inr rfl

theorem updateWithin_runs [Engine] (depth : Nat) (grounded : c.state.Grounded)
    (known : e.status.IsWord) :
    Runs Moves (updateWithin depth task route e) c fun _ d => ∀ g, c.graph? = some g → g.Numbered →
      State.Took g depth task route e c.state.outline d.state.outline := by
  induction depth generalizing c task route e with
  | zero => exact .throw _
  | succ depth ih =>
    unfold updateWithin
    refine .bind (requireTask_runs c task).quietly.moves ?_
    rintro _ c₁ moves₁ ⟨quiet₁, -⟩
    refine .bind (taskSpec_runs c₁ task).quietly.moves ?_
    rintro spec c₁ _ ⟨-, -, rfl⟩
    have grounded₁ := moves₁.grounded grounded
    refine .bind (receive_runs grounded₁ known) fun index c₂ moves₂ received => ?_
    have grounded₂ := moves₂.grounded grounded₁
    refine .bind (advance_runs grounded₂ received.latest spec e) fun answer c₃ moves₃ reaction => ?_
    have grounded₃ := moves₃.grounded grounded₂
    have moves₁₂ : Moves c c₂ := moves₁.trans moves₂
    have moves : Moves c c₃ := moves₁₂.trans moves₃
    rw [quiet₁.outline_eq] at received
    cases answer with
    | none =>
      refine (ih grounded₃ (isWord_command .retry)).weaken fun _ d _ took g found numbered => ?_
      obtain ⟨reacted, old, new, reacts, ⟨-, completed, same⟩ | ⟨_, missing, -⟩⟩ :=
        reaction g (moves₁₂.graph_eq found) numbered
      · refine ⟨index, _, reacted, old, new, received, reacts, .inl ⟨completed, ?_⟩⟩
        exact same ▸ took g (moves.graph_eq found) numbered
      · cases missing
    | some commands =>
      refine .bind (entryAt_runs c₃ index).quietly.moves ?_
      rintro entry c₃ _ ⟨-, -, rfl, atIndex⟩
      refine .bind_ofExcept fun status given => ?_
      refine .bind (followTask_runs c₃ _) fun _ c₄ moves₄ follows => ?_
      have moves₁₄ : Moves c c₄ := moves.trans moves₄
      have each : Runs Moves (commands.forM fun next => do
          let _ ← updateWithin depth next.1.name next.2 (.command next.1)) c₄ fun _ d =>
            Conducting.Chained (fun command d e => ∀ g, d.graph? = some g → g.Numbered →
              e.graph? = some g ∧ State.Took g depth command.1.name command.2
              (.command command.1) d.state.outline e.state.outline) commands c₄ d := by
        refine .forM_chained fun next _ d later => ?_
        have grounded' := Moves.grounded later (moves₄.grounded grounded₃)
        refine .bind (ih grounded' (isWord_command next.1)) fun _ e there took => .pure ?_
        exact fun g found numbered => ⟨Moves.graph_eq there found, took g found numbered⟩
      refine .bind each fun _ c₅ _ chained => .bind_getState ?_
      have took (g : Graph) (found : c.graph? = some g) (numbered : g.Numbered) :
          State.Took g (depth + 1) task route e c.state.outline c₅.state.outline := by
        obtain ⟨reacted, old, new, reacts, ⟨missing, -⟩ | ⟨_, same, goes⟩⟩ :=
          reaction g (moves₁₂.graph_eq found) numbered
        · cases missing
        cases same
        obtain ⟨before, foundBefore, rfl⟩ := reacts.entryAt
        obtain ⟨now, foundNow, sameStatus⟩ := goes.renoted.entryAt foundBefore
        rw [State.getElem?_outline, atIndex] at foundNow
        obtain rfl : status = before.status := by
          rw [requireStatus_eq_ok given, ← sameStatus, ← Option.some.inj foundNow]
          rfl
        refine ⟨index, _, reacted, old, _, received, reacts,
          .inr ⟨commands, _, c₄.state.outline, goes, ?_, ?_⟩⟩
        · exact (follows g task route _ (moves.graph_eq found) rfl).outline
        · exact chained.map (·.graph? = some g) (·.state.outline)
            (fun _ _ _ known took => took g known numbered) (moves₁₄.graph_eq found)
      split
      · refine .bind (close_runs c₅ index) fun _ d _ same => .pure ?_
        rw [same]
        exact took
      · exact .pure took

theorem update_runs [Engine] (grounded : c.state.Grounded)
    (known : e.status.IsWord) :
    Runs Moves (update task route e) c fun _ d => ∀ g, c.graph? = some g → g.Numbered →
      State.Took g updateDepth task route e c.state.outline d.state.outline :=
  updateWithin_runs updateDepth grounded known

end Conductor

end Orchestration
