import Mathlib.Data.List.Zip
import Orchestration.Proofs.Batches
import Orchestration.Proofs.Course.Call

/-!
What is offered for a task with items.

The items are numbered from zero. Those are offered that have not been started, from the first one
on, and only as many as may be active besides those that are.
-/

namespace Orchestration

open Conducting (Ends Runs result)

def itemsWith (p : Status → Bool) (items : List Status) : List Nat :=
  (items.zipIdx.filter (p ·.1)).map (·.2)

theorem mem_itemsWith {p : Status → Bool} {items : List Status} {i : Nat} :
    i ∈ itemsWith p items ↔ ∃ status, items[i]? = some status ∧ p status = true := by
  simp [itemsWith, List.mem_zipIdx_iff_getElem?]

theorem pairwise_itemsWith (p : Status → Bool) (items : List Status) :
    (itemsWith p items).Pairwise (· < ·) := by
  have numbers : (items.zipIdx.map (·.2)).Pairwise (· < ·) := by
    rw [List.zipIdx_map_snd]
    exact List.pairwise_lt_range' ..
  exact numbers.sublist (List.filter_sublist.map _)

theorem length_itemsWith (p : Status → Bool) (items : List Status) :
    (itemsWith p items).length = items.countP p := by
  rw [itemsWith, List.length_map, ← List.countP_eq_length_filter]
  nth_rewrite 2 [← List.zipIdx_map_fst 0 items]
  rw [List.countP_map]
  rfl

def unstarted (items : List Status) : List Nat := itemsWith (· == .unset) items

def window (limit : Nat) (items : List Status) : List Nat :=
  (unstarted items).take (limit - items.countP (·.isActive))

def Offer.isAt (o : Offer) (task : String) (route : Nat) : Bool :=
  o.task == task && o.route == route

theorem Offer.isAt_iff {o : Offer} {task : String} {route : Nat} :
    o.isAt task route = true ↔ (o.task, o.route) = (task, route) := by
  simp [Offer.isAt]

theorem Staged.isAt_iff {x : Staged} {task : String} {route : Nat} :
    x.isAt task route = true ↔ (x.task, x.route) = (task, route) := by
  simp [Staged.isAt]

namespace Batch

def statuses (count : Nat) (b : Batch) : List Status := b.items.getD (List.replicate count .unset)

def begun (count : Nat) (b : Batch) : Batch := { b with items := some (b.statuses count) }

def Counts (count : Nat) (b : Batch) : Prop := ∀ items, b.items = some items → items.length = count

theorem Counts.length_statuses {count : Nat} {b : Batch} (counts : b.Counts count) :
    (b.statuses count).length = count := by
  unfold statuses
  cases known : b.items with
  | none => exact List.length_replicate
  | some items => exact counts items known

theorem Counts.begin_eq {count : Nat} {b : Batch} (counts : b.Counts count) (positive : 0 < count) :
    b.begin count = b.begun count := by
  obtain ⟨items, ready, completed⟩ := b
  cases items with
  | none => rfl
  | some items =>
    have nonempty : items ≠ [] :=
      List.ne_nil_of_length_pos (by rw [counts items rfl]; exact positive)
    simp [begin, begun, statuses, nonempty]

end Batch

theorem Task.item_render [Engine] {task : Task} {context : Value} {actions : List Action}
    (rendered : task.render context = .ok actions) (repeats : task.repetition ≠ none) :
    actions.map (·.item) = (List.range actions.length).map some := by
  have numbered (keys : Option (List String)) (items : List Value) (start : Nat)
      (actions : List Action)
      (found : (items.zipIdx start).mapM
        (fun one => task.itemAction context keys one.2 one.1) = .ok actions) :
      actions.map (·.item) = (List.range' start actions.length).map some := by
    induction items generalizing start actions with
    | nil =>
      cases found
      rfl
    | cons item rest ih =>
      rw [List.zipIdx_cons, List.mapM_cons] at found
      obtain ⟨first, here, found⟩ := bind_eq_ok.mp found
      obtain ⟨others, later, found⟩ := bind_eq_ok.mp found
      cases found
      have number : first.item = some start := by
        obtain ⟨_, -, here⟩ := bind_eq_ok.mp here
        obtain ⟨_, -, here⟩ := bind_eq_ok.mp here
        obtain ⟨_, -, here⟩ := bind_eq_ok.mp here
        cases here
        rfl
      rw [List.map_cons, number, ih (start + 1) others later]
      rfl
  unfold Task.render at rendered
  split at rendered
  case h_1 none => exact (repeats none).elim
  case h_2 =>
    obtain ⟨text, -, rendered⟩ := bind_eq_ok.mp rendered
    obtain ⟨items, -, rendered⟩ := bind_eq_ok.mp rendered
    rw [List.range_eq_range']
    exact numbered _ items 0 actions rendered

namespace Conductor

theorem startable_window {actions : List Action} {items : List Status} (limit : Nat)
    (numbered : actions.map (·.item) = (List.range items.length).map some) :
    ∃ chosen, startable actions items (.int limit) = .ok chosen ∧
      chosen.map (·.item) = (window limit items).map some := by
  have length : actions.length = items.length := by
    simpa using congrArg List.length numbered
  have paired : (actions.zip items).map (fun one => (one.1.item, one.2)) =
      items.zipIdx.map fun one => (some one.2, one.1) := by
    refine (List.zip_map_left (f := Action.item)).symm.trans ?_
    rw [numbered, List.zip_map_left, List.zipIdx_eq_zip_range', ← List.range_eq_range',
      ← List.zip_swap items, List.map_map]
    rfl
  have waiting :
      (((actions.zip items).filter (·.2 == .unset)).map (·.1)).map
        (·.item) = (unstarted items).map some := by
    have chosen := congrArg (fun list => (list.filter (·.2 == .unset)).map (·.1)) paired
    simp only [List.filter_map, List.map_map] at chosen
    rw [unstarted, itemsWith, List.map_map, List.map_map]
    exact chosen
  have active : ((actions.zip items).filter (·.2.isActive)).length = items.countP (·.isActive) := by
    have second : (actions.zip items).map (·.2) = items :=
      List.map_snd_zip (Nat.le_of_eq length.symm)
    rw [← List.countP_eq_length_filter]
    nth_rewrite 2 [← second]
    rw [List.countP_map]
    rfl
  have available : availability (.int limit) ((actions.zip items).filter (·.2.isActive)).length =
      .ok (limit - items.countP (·.isActive)) := by
    rw [active]
    rfl
  refine ⟨_, bind_eq_ok.mpr ⟨_, available, rfl⟩, ?_⟩
  rw [List.map_take, waiting, window, List.map_take]
  congr 1
  omega

variable {c : Conductor} {task : String} {route : Nat}

theorem offer_numbered [Engine] (c : Conductor) (task : String) (route : Nat) :
    Ends (offer task route) c (fun o _ => ∀ count concurrency, o.items = some (count, concurrency) →
      o.actions.map (·.item) = (List.range count).map some) (fun _ => True) := by
  have any {α : Type} (m : Conducting α) (d : Conductor) :
      Ends m d (fun _ _ => True) (fun _ => True) :=
    .of_after (fun _ => True) trivial
  unfold offer
  refine .bind (any _ c) fun own d _ => .bind_ofExcept (fun _ _ => trivial) fun current _ => ?_
  refine .bind (any _ d) fun shown d _ => .bind (any _ d) fun spec d _ => ?_
  refine .bind_ofExcept (fun _ _ => trivial) fun copied _ =>
    .bind_ofExcept (fun _ _ => trivial) fun described _ => ?_
  refine .bind_ofExcept (fun _ _ => trivial) fun actions rendered => ?_
  refine .bind_ofExcept (fun _ _ => trivial) fun delay _ =>
    .bind_ofExcept (fun _ _ => trivial) fun items listed => ?_
  refine .pure fun count concurrency same => ?_
  dsimp only at same
  subst same
  unfold itemsOf at listed
  split at listed
  case h_1 => cases listed
  case h_2 repeats =>
    obtain ⟨_, -, listed⟩ := bind_eq_ok.mp listed
    cases listed
    exact Task.item_render rendered (by rw [repeats]; exact Option.some_ne_none _)
  case h_3 repeats =>
    cases listed
    exact Task.item_render rendered (by rw [repeats]; exact Option.some_ne_none _)

/-! ### One task -/

theorem limitItems_other {o : Offer} (apart : (o.task, o.route) ≠ (task, route)) :
    Ends (limitItems o) c
      (fun o' d => d.state.batches task route = c.state.batches task route ∧ o'.task = o.task ∧
        o'.route = o.route) (fun d => d.state.batches task route = c.state.batches task route) := by
  unfold limitItems
  split
  · exact .pure ⟨rfl, rfl, rfl⟩
  case h_2 count concurrency _ =>
    have same := State.batches_begin_of_ne (s := c.state) apart count
    exact .bind_modifyState _
      (.bind_getState (.bind_ofExcept (fun _ _ => same) fun _ _ => .pure ⟨same, rfl, rfl⟩))

theorem exists_retryDelay (t : Staged) (o : Offer) : ∃ o', retryDelay t o = .ok o' := by
  unfold retryDelay
  split <;> exact ⟨_, rfl⟩

theorem attempt_other [Engine] (grounded : c.state.Grounded) (t : Staged)
    (apart : (t.task, t.route) ≠ (task, route)) :
    Ends (attempt t) c (fun found d => d.state.batches task route = c.state.batches task route ∧
      ∀ o ∈ found.getD [], (o.task, o.route) ≠ (task, route)) (fun _ => False) := by
  have offered : Ends (offerStaged t) c
      (fun o d => d.state.batches task route = c.state.batches task route ∧ o.task = t.task ∧
        o.route = t.route) (fun d => d.state.batches task route = c.state.batches task route) := by
    have kept {d : Conductor} (same : d.state.sketch = c.state.sketch) :
        d.state.batches task route = c.state.batches task route := by
      rw [← State.batches_sketch, same, State.batches_sketch]
    unfold offerStaged
    refine .bind_quietly (offer_runs grounded t.task t.route) (fun d same => kept same) ?_
    rintro o d - same ⟨named, placed⟩
    have limits := limitItems_other (c := d) (o := o) (by rw [named, placed]; exact apart)
    rw [kept same] at limits
    refine .bind limits fun o' e ⟨sameNow, rest⟩ => .ofExcept _ (fun offered delayed => ?_)
      fun _ _ => sameNow
    obtain ⟨delay, rfl⟩ := retryDelay_eq_ok delayed
    exact ⟨sameNow, rest.1.trans named, rest.2.trans placed⟩
  refine .tryCatch (.bind offered fun o d ⟨same, named, placed⟩ => .pure ⟨same, ?_⟩)
    fun e d same => ?_
  · intro o' mem
    rw [Option.getD_some] at mem
    split at mem
    · rw [List.mem_singleton.mp mem, named, placed]
      exact apart
    · cases mem
  · have logged := result_logError e (.ofTask t.task t.route) d
    exact .bind_of_result logged (.pure ⟨same, fun o mem => by cases mem⟩)

section Own

variable {count limit : Nat} {b : Batch} {rest : List Batch}

theorem limitItems_own {o : Offer} (staged : c.state.batches o.task o.route = b :: rest)
    (listed : o.items = some (count, .int limit))
    (numbered : o.actions.map (·.item) = (List.range count).map some) (counts : b.Counts count)
    (positive : 0 < count) :
    Ends (limitItems o) c (fun o' d => d.state.batches o.task o.route = b.begun count :: rest ∧
      o'.task = o.task ∧ o'.route = o.route ∧ o'.items = o.items ∧
      o'.actions.map (·.item) = (window limit (b.statuses count)).map some) (fun _ => False) := by
  unfold limitItems
  rw [listed]
  dsimp only
  generalize begins : c.state.updateStaged o.task o.route _ = begun
  have stagedNow : begun.batches o.task o.route = b.begun count :: rest := by
    rw [← begins, State.batches_begin, staged]
    exact congrArg (· :: rest) (counts.begin_eq positive)
  have noted : ((begun.staged? o.task o.route).bind (·.items)).getD [] = b.statuses count := by
    obtain ⟨x, found, batch⟩ := State.staged?_of_batches stagedNow
    rw [found, Option.bind_some, show x.items = some (b.statuses count) from
      congrArg Batch.items batch]
    rfl
  rw [← counts.length_statuses] at numbered
  obtain ⟨chosen, started, items⟩ := startable_window limit numbered
  refine .bind_modifyState _ (.bind_getState ?_)
  rw [begins]
  dsimp only
  rw [noted, started]
  exact .bind_of_result (Conducting.result_ofExcept _ _) (.pure ⟨stagedNow, rfl, rfl, rfl, items⟩)

theorem isWorth_of_items {o : Offer} {concurrency : Value}
    (listed : o.items = some (count, concurrency)) (positive : 0 < count) :
    isWorth o = !o.actions.isEmpty := by
  simp [isWorth, listed, Nat.ne_of_gt positive]

/-- The window is offered for a task with items that can be rendered, and the task is not offered if
the window is empty. -/
theorem attempt_own [Engine] (grounded : c.state.Grounded) (t : Staged)
    (staged : c.state.batches t.task t.route = b :: rest)
    (renders : ∀ o d, result (offer t.task t.route) c = (.ok o, d) →
      o.items = some (count, .int limit)) (counts : b.Counts count) (positive : 0 < count) :
    Ends (attempt t) c (fun found d =>
      found = none ∧ d.state.batches t.task t.route = b :: rest ∨
      ∃ offers, found = some offers ∧ d.state.batches t.task t.route = b.begun count :: rest ∧
        (∀ o ∈ offers, o.task = t.task ∧ o.route = t.route) ∧
        offers.map (fun o => o.actions.map (·.item)) =
          if window limit (b.statuses count) = [] then []
            else [(window limit (b.statuses count)).map some])
      (fun _ => False) := by
  have kept {d : Conductor} (same : d.state.sketch = c.state.sketch) :
      d.state.batches t.task t.route = b :: rest := by
    rw [← State.batches_sketch, same, State.batches_sketch, staged]
  have offered : Ends (offerStaged t) c
      (fun o d => d.state.batches t.task t.route = b.begun count :: rest ∧ o.task = t.task ∧
        o.route = t.route ∧ o.items = some (count, .int limit) ∧
        o.actions.map (·.item) = (window limit (b.statuses count)).map some)
      (fun d => d.state.batches t.task t.route = b :: rest) := by
    have rendered : Ends (offer t.task t.route) c (fun o _ => o.items = some (count, .int limit))
        (fun _ => True) :=
      ⟨renders, fun _ _ _ => trivial⟩
    have whole := ((Ends.of_quietly (offer_runs grounded t.task t.route)).and
      (offer_numbered c t.task t.route)).and rendered
    unfold offerStaged
    refine .bind (whole.orIll fun d holds => kept holds.1.1) ?_
    rintro o d ⟨⟨⟨-, same, named, placed⟩, numbered⟩, listed⟩
    have limits := limitItems_own (c := d) (o := o) (by rw [named, placed]; exact kept same) listed
      (numbered count _ listed) counts positive
    rw [named, placed, listed] at limits
    refine .bind (limits.orIll fun _ never => never.elim) fun o' e holds => ?_
    obtain ⟨_, delayed⟩ := exists_retryDelay t o'
    refine .ofExcept _ (fun offered delayed => ?_) fun _ failed => ?_
    · obtain ⟨delay, rfl⟩ := retryDelay_eq_ok delayed
      exact holds
    · cases delayed.symm.trans failed
  refine .tryCatch (.bind offered fun o d ⟨begun, named, placed, listed, items⟩ =>
    .pure (.inr ⟨_, rfl, begun, ?_⟩)) fun e d same => ?_
  · have worth : isWorth o = !(window limit (b.statuses count)).isEmpty := by
      rw [isWorth_of_items listed positive, ← List.isEmpty_map (f := (·.item)), items,
        List.isEmpty_map]
    by_cases empty : window limit (b.statuses count) = []
    · rw [worth, empty]
      exact ⟨fun o mem => (List.not_mem_nil mem).elim, rfl⟩
    · rw [worth, if_neg empty, if_pos (by simpa using empty), ← items]
      refine ⟨fun other mem => ?_, rfl⟩
      rw [List.mem_singleton.mp mem]
      exact ⟨named, placed⟩
  · have logged := result_logError e (.ofTask t.task t.route) d
    exact .bind_of_result logged (.pure (.inl ⟨rfl, same⟩))

end Own

/-! ### All tasks -/

/-- What is rendered for a task, before it is limited, when these tasks are offered one after the
other. -/
def rendered [Engine] (task : String) (route : Nat) : List Staged → Conductor → List Offer
  | [], _ => []
  | t :: rest, c =>
    let later := rendered task route rest (Conducting.after (attempt t) c)
    if t.isAt task route then
      match (result (offer t.task t.route) c).1 with
      | .ok o => o :: later
      | .error _ => later
    else later

def itemsOffered (task : String) (route : Nat) (offers : List Offer) : List (List (Option Nat)) :=
  (offers.filter (·.isAt task route)).map fun o => o.actions.map (·.item)

theorem itemsOffered_append (task : String) (route : Nat) (offers more : List Offer) :
    itemsOffered task route (offers ++ more) = itemsOffered task route offers ++
      itemsOffered task route more := by
  rw [itemsOffered, List.filter_append, List.map_append]
  rfl

theorem itemsOffered_of_apart {offers : List Offer}
    (apart : ∀ o ∈ offers, (o.task, o.route) ≠ (task, route)) :
    itemsOffered task route offers = [] := by
  rw [itemsOffered, List.filter_eq_nil_iff.mpr fun o mem => mt Offer.isAt_iff.mp (apart o mem)]
  rfl

theorem itemsOffered_of_own {offers : List Offer}
    (own : ∀ o ∈ offers, o.task = task ∧ o.route = route) :
    itemsOffered task route offers = offers.map fun o => o.actions.map (·.item) := by
  rw [itemsOffered, List.filter_eq_self.mpr fun o mem => ?_]
  obtain ⟨rfl, rfl⟩ := own o mem
  exact Offer.isAt_iff.mpr rfl

theorem offerAll_other [Engine] (grounded : c.state.Grounded) {staged : List Staged}
    (apart : ∀ x ∈ staged, x.isAt task route = false) :
    Ends (offerAll staged) c
      (fun answer d => d.state.batches task route = c.state.batches task route ∧
      itemsOffered task route answer.1 = []) (fun _ => False) := by
  induction staged generalizing c with
  | nil => exact .pure ⟨rfl, rfl⟩
  | cons t rest ih =>
    obtain ⟨here, later⟩ := List.forall_mem_cons.mp apart
    rw [offerAll_cons]
    have elsewhere : (t.task, t.route) ≠ (task, route) := by
      rw [ne_eq, ← Staged.isAt_iff, here]
      exact Bool.false_ne_true
    refine .bind ((attempt_other grounded t elsewhere).with_moves
      (attempt_runs grounded t).moved) ?_
    rintro found d ⟨moves, -, same, own⟩
    refine .bind (ih (moves.grounded grounded) later) fun answer e ⟨sameNow, nothing⟩ => ?_
    cases found with
    | none => exact .pure ⟨sameNow.trans same, nothing⟩
    | some new =>
      refine .pure ⟨sameNow.trans same, ?_⟩
      rw [itemsOffered_append, nothing, itemsOffered_of_apart (show ∀ o ∈ new, _ from own)]
      rfl

/-- A task with items is offered among others. If it cannot be rendered, something has failed. -/
theorem offerAll_own [Engine] {count limit : Nat} {b : Batch} {more : List Batch}
    (grounded : c.state.Grounded) {staged : List Staged}
    (batches : c.state.batches task route = b :: more)
    (renders : ∀ o ∈ rendered task route staged c, o.items = some (count, .int limit))
    (counts : b.Counts count) (positive : 0 < count) {t : Staged}
    (one : staged.filter (·.isAt task route) = [t]) : Ends (offerAll staged) c (fun answer d =>
      answer.2 = true ∧ d.state.batches task route = b :: more ∧
        itemsOffered task route answer.1 = [] ∨
      d.state.batches task route = b.begun count :: more ∧ itemsOffered task route answer.1 =
        if window limit (b.statuses count) = [] then []
          else [(window limit (b.statuses count)).map some])
      (fun _ => False) := by
  induction staged generalizing c with
  | nil => cases one
  | cons first rest ih =>
    rw [List.filter_cons] at one
    rw [rendered] at renders
    rw [offerAll_cons]
    split at one
    case isTrue here =>
      have apart : ∀ x ∈ rest, x.isAt task route = false := by
        simpa using (List.cons.inj one).2
      rw [if_pos here] at renders
      obtain ⟨rfl, rfl⟩ := Prod.mk.inj (Staged.isAt_iff.mp here)
      have own (o : Offer) (d : Conductor)
          (found : result (offer first.task first.route) c = (.ok o, d)) :
          o.items = some (count, .int limit) := renders o (by rw [found]; exact List.mem_cons_self)
      refine .bind ((attempt_own grounded first batches own counts positive).with_moves
        (attempt_runs grounded first).moved) ?_
      rintro found d ⟨moves, -, outcome⟩
      refine .bind (offerAll_other (moves.grounded grounded) apart)
        fun answer e ⟨same, nothing⟩ => ?_
      rcases outcome with ⟨rfl, kept⟩ | ⟨offers, rfl, begun, ours, items⟩
      · exact .pure (.inl ⟨rfl, same.trans kept, nothing⟩)
      · refine .pure (.inr ⟨same.trans begun, ?_⟩)
        rw [itemsOffered_append, nothing, List.append_nil, itemsOffered_of_own ours, items]
    case isFalse elsewhere =>
      rw [if_neg elsewhere] at renders
      have tried :=
        ((attempt_other grounded first fun same => elsewhere (Staged.isAt_iff.mpr same)).and
        (Ends.of_after (fun d => d = Conducting.after (attempt first) c) rfl)).with_moves
          (attempt_runs grounded first).moved
      refine .bind (tried.orIll fun _ never => never.1) ?_
      rintro found d ⟨moves, -, ⟨same, own⟩, rfl⟩
      refine .bind (ih (moves.grounded grounded) (same.trans batches) renders one) ?_
      intro answer e outcome
      cases found with
      | none => exact .pure (outcome.imp_left fun ⟨_, rest⟩ => ⟨rfl, rest⟩)
      | some new =>
        refine .pure ?_
        rw [itemsOffered_append, itemsOffered_of_apart (show ∀ o ∈ new, _ from own),
          List.nil_append]
        exact outcome

/-! ### A call -/

theorem itemsOffered_sortOffers {offers : List Offer}
    (few : (itemsOffered task route offers).length ≤ 1) :
    itemsOffered task route (sortOffers offers) = itemsOffered task route offers := by
  have same : (itemsOffered task route (sortOffers offers)).Perm (itemsOffered task route offers) :=
    ((List.mergeSort_perm offers _).filter _).map _
  cases list : itemsOffered task route offers with
  | nil => exact List.perm_nil.mp (list ▸ same)
  | cons first rest =>
    rw [list] at few same
    obtain rfl : rest = [] := List.eq_nil_of_length_eq_zero (by simpa using few)
    exact List.perm_singleton.mp same

end Conductor

namespace State

variable {s : State} {task : String} {route : Nat}

/-- The tasks that are offered by a call: those that can start, or only remedies if the workflow has
failed and there are some. -/
def offerable (s : State) : List Staged :=
  let remedies := if s.status == .failed then s.ready.filter (·.runOnFail) else []
  if remedies.isEmpty then s.ready else remedies

theorem offerable_sublist (s : State) : s.offerable.Sublist s.staged := by
  have ready : s.ready.Sublist s.staged := List.filter_sublist
  unfold offerable
  dsimp only
  generalize found :
    (if (s.status == .failed) = true then s.ready.filter (·.runOnFail) else []) = remedies
  have among : remedies.Sublist s.staged := by
    rw [← found]
    split
    · exact List.filter_sublist.trans ready
    · exact List.nil_sublist _
  split
  · exact ready
  · exact among

theorem offerable_of_running (running : s.status = .running) : s.offerable = s.ready := by
  simp [offerable, running]

/-- If a task is staged once at most it is offered once at most. -/
theorem offerable_cases (few : (s.batches task route).length ≤ 1) :
    (∀ x ∈ s.offerable, x.isAt task route = false) ∨
      ∃ x, s.offerable.filter (·.isAt task route) = [x] ∧ s.batches task route = [x.batch] := by
  have among := ((offerable_sublist s).filter (·.isAt task route)).map Staged.batch
  cases own : s.offerable.filter (·.isAt task route) with
  | nil =>
    refine .inl fun x offered => ?_
    simpa using List.filter_eq_nil_iff.mp own x offered
  | cons x rest =>
    rw [own] at among
    have same : (x :: rest).map Staged.batch = s.batches task route :=
      among.eq_of_length_le (few.trans (by simp))
    rw [← same, List.length_map, List.length_cons] at few
    obtain rfl : rest = [] := List.eq_nil_of_length_eq_zero (by omega)
    exact .inr ⟨x, rfl, same.symm⟩

end State

/-- What a call does to what is staged for a task with so many items, of which so many may be active
at once, and which items it offers. -/
inductive Dispatches (count limit : Nat) :
    List Batch → List Batch → List (List (Option Nat)) → Prop where
  | nothing (staged : List Batch) : Dispatches count limit staged staged []
  | begin (b : Batch) : Dispatches count limit [b] [b.begun count] []
  | window (b : Batch) : Dispatches count limit [b] [b.begun count]
      [(window limit (b.statuses count)).map some]

section Dispatches

variable {count limit : Nat} {staged left : List Batch} {items : List (List (Option Nat))}

theorem Dispatches.length_le (done : Dispatches count limit staged left items) :
    items.length ≤ 1 := by
  cases done <;> simp

theorem Dispatches.withheld (done : Dispatches count limit staged left items) :
    Dispatches count limit staged left [] := by
  cases done with
  | nothing => exact .nothing staged
  | begin b | window b => exact .begin b

end Dispatches

namespace Conductor

variable {c : Conductor} {task : String} {route count limit : Nat}

def RendersItems [Engine] (count limit : Nat) (task : String) (route : Nat)
    (c : Conductor) : Prop :=
  ∀ o ∈ rendered task route c.state.offerable c, o.items = some (count, .int limit)

def rendersItems [Engine] (count limit : Nat) (task : String) (route : Nat)
    (c : Conductor) : Bool :=
  (rendered task route c.state.offerable c).all fun o =>
    match o.items with
    | some (n, .int k) => n == count && k == limit
    | _ => false

theorem rendersItems_iff [Engine] :
    c.rendersItems count limit task route = true ↔ c.RendersItems count limit task route := by
  unfold rendersItems RendersItems
  rw [List.all_eq_true]
  refine forall_congr' fun o => imp_congr_right fun _ => ?_
  split
  case h_1 same => simp [same]
  case h_2 other =>
    exact ⟨fun impossible => Bool.noConfusion impossible, fun same => (other _ _ same).elim⟩

def rendersAll [Engine] (c : Conductor) : Bool :=
  match (result (offerAll c.state.ready) c).1 with
  | .ok (_, failed) => !failed
  | .error _ => false

theorem rendersAll_iff [Engine] :
    c.rendersAll = true ↔ ∃ found d,
      result (offerAll c.state.ready) c = (.ok (found, false), d) := by
  unfold rendersAll
  rcases result (offerAll c.state.ready) c with ⟨_ | ⟨_, failed⟩, d⟩
  · simp
  · cases failed <;> simp

theorem offerAll_dispatches [Engine] (grounded : c.state.Grounded)
    (few : (c.state.batches task route).length ≤ 1)
    (counts : ∀ b ∈ c.state.batches task route, b.Counts count) (positive : 0 < count)
    (renders : c.RendersItems count limit task route) :
    Ends (offerAll c.state.offerable) c
      (fun answer d => Dispatches count limit (c.state.batches task route)
        (d.state.batches task route) (itemsOffered task route answer.1)) (fun _ => False) := by
  rcases State.offerable_cases few with apart | ⟨x, one, staged⟩
  · refine (offerAll_other grounded apart).weaken ?_ fun _ never => never
    rintro answer d ⟨same, nothing⟩
    rw [same, nothing]
    exact .nothing _
  · rw [staged] at counts ⊢
    refine (offerAll_own grounded staged renders (counts _ (List.mem_singleton_self _))
      positive one).weaken ?_ fun _ never => never
    rintro answer d (⟨-, same, nothing⟩ | ⟨begun, items⟩)
    · rw [same, nothing]
      exact .nothing _
    · rw [begun, items]
      split
      · exact .begin _
      · exact .window _

theorem nextTasks_dispatches [Engine] (grounded : c.state.Grounded)
    (few : (c.state.batches task route).length ≤ 1)
    (counts : ∀ b ∈ c.state.batches task route, b.Counts count) (positive : 0 < count)
    (renders : c.RendersItems count limit task route) :
    let Done (d : Conductor) :=
      Dispatches count limit (c.state.batches task route) (d.state.batches task route)
    Ends nextTasks c (fun offers d => Done d (itemsOffered task route offers))
    (fun d => Done d []) := by
  intro Done
  have offered := offerAll_dispatches grounded few counts positive renders
  unfold State.offerable at offered
  unfold nextTasks
  refine .bind_getState ?_
  dsimp only at offered ⊢
  generalize (if (c.state.status == .failed) = true then c.state.ready.filter
    (·.runOnFail) else []) = remedies at offered ⊢
  split
  · exact .pure (.nothing _)
  refine .bind (offered.orIll fun _ never => never.elim) fun answer d done => ?_
  split
  · have kept {e : Conductor} (staged : e.state.sketch.staged = d.state.sketch.staged) :
        Done e [] := by
      have same : e.state.batches task route = d.state.batches task route := by
        rw [← State.batches_sketch, State.batches_of_staged staged, State.batches_sketch]
      unfold Done
      rw [same]
      exact done.withheld
    refine .bind ((fail_ends d).orIll fun e same => kept (same ▸ rfl)) ?_
    exact fun _ e failed => .pure (kept (by rw [failed]))
  · refine .pure ?_
    rw [itemsOffered_sortOffers done.length_le]
    exact done

/-- A call that goes well while the workflow runs offers the window of a task that can be
started. -/
theorem nextTasks_window [Engine] (grounded : c.state.Grounded)
    (running : c.state.status = .running) {b : Batch} (staged : c.state.batches task route = [b])
    (ready : b.ready = true) (open_ : b.completed = false) (counts : b.Counts count)
    (positive : 0 < count) (renders : c.RendersItems count limit task route)
    (all : c.rendersAll = true) :
    ∃ offers, (result nextTasks c).1 = .ok offers ∧ itemsOffered task route offers =
      if window limit (b.statuses count) = [] then []
        else [(window limit (b.statuses count)).map some] := by
  obtain ⟨found, d, all⟩ := rendersAll_iff.mp all
  have offerable := State.offerable_of_running running
  have one : ∃ x, c.state.offerable.filter (·.isAt task route) = [x] := by
    obtain ⟨x, placed, rfl⟩ := List.map_eq_singleton_iff.mp staged
    refine ⟨x, ?_⟩
    rw [offerable, State.ready, List.filter_comm, placed]
    have isReady : x.isReady = true := by
      rw [Staged.isReady, show x.ready = true from ready, show x.completed = false from open_]
      rfl
    simp [isReady]
  obtain ⟨x, one⟩ := one
  have offered := offerAll_own grounded staged renders counts positive one
  rw [offerable] at offered
  have items := offered.1 _ _ all
  obtain ⟨impossible, -⟩ | ⟨-, items⟩ := items
  · cases impossible
  have answered : result nextTasks c = (.ok (sortOffers found), d) := by
    unfold nextTasks
    rw [Conducting.result_bind_of_ok (Conducting.result_getState c)]
    have underWay : Status.running.isUnderWay = true := by decide
    simp only [running, underWay, Bool.not_true, Bool.false_and, Bool.false_eq_true, if_false]
    rw [Conducting.result_bind_of_ok (by exact all)]
    rfl
  refine ⟨sortOffers found, by rw [answered], ?_⟩
  rw [itemsOffered_sortOffers, items]
  rw [items]
  split <;> simp

end Conductor

end Orchestration
