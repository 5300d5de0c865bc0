import Orchestration.Proofs.Bystanders

/-!
What a task comes to whose items have all been started and then come to an end, one after the other.

The task is not completed before its last item is. Then it has been canceled if an item has, or else
it has failed if an item has, or else it has succeeded: in which order the items report does not
matter.
-/

namespace Orchestration

/-! ### What items lead a task to -/

namespace Machine.Task

def verdict (items : List Status) : Status :=
  if items.any (· == .canceled) then .canceled else if items.any (·.isAbended) then .failed
    else .succeeded

theorem verdict_congr {items others : List Status}
    (same : ∀ status, status ∈ items ↔ status ∈ others) : verdict items = verdict others := by
  have any (p : Status → Bool) : items.any p = others.any p := by
    rw [Bool.eq_iff_iff, List.any_eq_true, List.any_eq_true]
    simp only [same]
  rw [verdict, verdict, any, any]

theorem isCompleted_iff {status : Status} : status.isCompleted = true ↔ status ∈ Status.completed :=
  List.contains_iff_mem

theorem step_running {old : Status} (word : old.IsWord) (open_ : old.isCompleted = false)
    (free : old ∉ [Status.pending, .pausing, .canceling]) (others : List Status) :
    step old (itemSignal .running others) = .ok (some .running) := by
  cases old with
  | requested | scheduled | delayed | running | paused | resuming | retrying | unset
  | missing => rfl
  | pending | pausing | canceling => exact (free (by decide)).elim
  | succeeded | failed | expired | abandoned | canceled => cases open_
  | unknown word =>
    rcases word with impossible | impossible
    · cases impossible
    · simp [Status.isKnown, Status.all] at impossible

/-- A task goes on when an item is completed while another one is active. It is to be canceled if an
item is. -/
theorem step_while_active {old new : Status} {others : List Status}
    (goesOn : old = .running ∨ old = .canceling) (completed : new.isCompleted = true)
    (active : others.any (·.isActive) = true) :
    ∃ answer, step old (itemSignal new others) = .ok answer ∧
      answer.getD old = if old = .canceling ∨ new = .canceled then .canceling else .running := by
  have unfinished : others.all (·.isCompleted) = false := by
    obtain ⟨status, among, isActive⟩ := List.any_eq_true.mp active
    rw [List.all_eq_false]
    refine ⟨status, among, ?_⟩
    cases status <;> simp_all [Status.isActive, Status.active, Status.isCompleted, Status.completed]
  have scope : itemScope others = .items .active .incomplete := by
    simp [itemScope, active, unfinished]
  simp only [isCompleted_iff, Status.completed, List.mem_cons, List.not_mem_nil,
    or_false] at completed
  rcases goesOn with rfl | rfl <;> rcases completed with rfl | rfl | rfl | rfl | rfl <;>
    exact ⟨_, by rw [itemSignal, scope]; rfl, rfl⟩

/-- When the last item is completed its task comes to what the items have come to. -/
theorem step_last {old new : Status} {others : List Status}
    (goesOn : old = .running ∨ old = .canceling) (completed : new.isCompleted = true)
    (done : others.all (·.isCompleted) = true) (agrees : old = .canceling → .canceled ∈ others) :
    ∃ answer, step old (itemSignal new others) = .ok answer ∧
      answer.getD old = verdict (new :: others) := by
  have none (p : Status → Bool) (apart : ∀ status ∈ Status.completed, p status = false) :
      others.any p = false := by
    rw [List.any_eq_false]
    intro status among
    rw [apart status (isCompleted_iff.mp (List.all_eq_true.mp done status among))]
    simp
  have idle : others.any (·.isActive) = false := none _ (by decide)
  have awake : (others.any fun s => s == .pending || s == .paused) = false := none _ (by decide)
  have scope : itemScope others = .items .dormant (if others.any (· == .canceled) then .canceled
      else if others.any (·.isAbended) then .failed else .completed) := by
    simp only [itemScope, idle, awake, done, Bool.false_eq_true, if_true, if_false]
    split
    · rfl
    · split <;> rfl
  have canceling : old = .canceling → others.any (· == .canceled) = true := fun same =>
    List.any_eq_true.mpr ⟨.canceled, agrees same, rfl⟩
  rw [verdict, List.any_cons, List.any_cons, itemSignal, scope]
  simp only [isCompleted_iff, Status.completed, List.mem_cons, List.not_mem_nil,
    or_false] at completed
  generalize others.any (· == .canceled) = canceled at canceling
  generalize others.any (·.isAbended) = abended
  rcases goesOn with rfl | rfl
  · rcases completed with rfl | rfl | rfl | rfl | rfl <;> cases canceled <;> cases abended <;>
      exact ⟨_, rfl, rfl⟩
  · cases canceling rfl
    rcases completed with rfl | rfl | rfl | rfl | rfl <;> exact ⟨_, rfl, rfl⟩

end Machine.Task

/-! ### What is noted of items -/

def recorded (items : List Status) (reports : List (Nat × Status)) : List Status :=
  reports.foldl (fun items report => items.set report.1 report.2) items

@[simp]
theorem length_recorded (items : List Status) (reports : List (Nat × Status)) :
    (recorded items reports).length = items.length := by
  induction reports generalizing items with
  | nil => rfl
  | cons report rest ih => exact (ih _).trans List.length_set

theorem recorded_append (items : List Status) (reports more : List (Nat × Status)) :
    recorded items (reports ++ more) = recorded (recorded items reports) more := List.foldl_append

theorem getElem?_recorded (outcome : Nat → Status) (indices : List Nat)
    {items : List Status} {j : Nat} (within : j < items.length) :
    (recorded items (indices.map fun i => (i, outcome i)))[j]? =
      if j ∈ indices then some (outcome j) else items[j]? := by
  induction indices generalizing items with
  | nil => rfl
  | cons i rest ih =>
    have still : j < (items.set i (outcome i)).length := by simpa using within
    refine (ih still).trans ?_
    by_cases here : i = j
    · subst here
      simp [within]
    · simp [List.getElem?_set_ne here, Ne.symm here]

/-- All items are started, and then each of them comes to an end. -/
def schedule (started ended : List Nat) (outcome : Nat → Status) : List (Nat × Status) :=
  started.map (fun i => (i, .running)) ++ ended.map fun i => (i, outcome i)

theorem schedule_concat {started ended : List Nat} {outcome : Nat → Status}
    {reports : List (Nat × Status)} {i : Nat} {status : Status}
    (begins : reports ++ [(i, status)] <+: schedule started ended outcome) :
    (∃ before more, started = before ++ i :: more ∧ status = .running ∧
      reports = before.map fun k => (k, .running)) ∨
    ∃ done more, ended = done ++ i :: more ∧ status = outcome i ∧
      reports = started.map (fun k => (k, .running)) ++ done.map fun k => (k, outcome k) := by
  obtain ⟨rest, split⟩ := begins
  rw [List.append_assoc, List.singleton_append, schedule, List.append_eq_append_iff] at split
  have last {left : List (Nat × Status)}
      (split : ended.map (fun k => (k, outcome k)) = left ++ (i, status) :: rest) :
      ∃ done more, ended = done ++ i :: more ∧ status = outcome i ∧ left = done.map fun k =>
        (k, outcome k) := by
    obtain ⟨done, after, rfl, rfl, later⟩ := List.map_eq_append_iff.mp split
    obtain ⟨_, more, rfl, same, -⟩ := List.map_eq_cons_iff.mp later
    obtain ⟨rfl, rfl⟩ := Prod.mk.inj same
    exact ⟨done, more, rfl, rfl, rfl⟩
  rcases split with ⟨left, early, late⟩ | ⟨left, rfl, late⟩
  · cases left with
    | nil =>
      have split : ended.map (fun k => (k, outcome k)) = [] ++ (i, status) :: rest := late.symm
      obtain ⟨done, more, split, same, empty⟩ := last split
      refine .inr ⟨done, more, split, same, ?_⟩
      rw [← empty, early, List.append_nil, List.append_nil]
    | cons report left =>
      obtain ⟨rfl, -⟩ := List.cons.inj late
      obtain ⟨before, after, rfl, rfl, later⟩ := List.map_eq_append_iff.mp early
      obtain ⟨_, more, rfl, same, -⟩ := List.map_eq_cons_iff.mp later
      obtain ⟨rfl, rfl⟩ := Prod.mk.inj same
      exact .inl ⟨before, more, rfl, rfl, rfl⟩
  · obtain ⟨done, more, split, same, rfl⟩ := last late
    exact .inr ⟨done, more, split, same, rfl⟩

section Schedule

variable {started ended : List Nat} {outcome : Nat → Status} {items : List Status}
  (starts : started.Perm (List.range items.length)) (ends : ended.Perm (List.range items.length))

include starts in
theorem getElem?_recorded_started {j : Nat} (within : j < items.length) :
    (recorded items (started.map fun i => (i, .running)))[j]? = some .running := by
  rw [getElem?_recorded (fun _ => .running) started within, if_pos]
  exact starts.mem_iff.mpr (List.mem_range.mpr within)

include starts in
theorem getElem?_recorded_ended {j : Nat} (done : List Nat) (within : j < items.length) :
    (recorded items (started.map (fun i => (i, .running)) ++ done.map fun i =>
      (i, outcome i)))[j]? = some (if j ∈ done then outcome j else .running) := by
  rw [recorded_append, getElem?_recorded outcome done (by simpa using within),
    getElem?_recorded_started starts within]
  split <;> rfl

include ends in
/-- While an item is left, it is active when another one comes to an end. -/
theorem others_active {done more : List Nat} {i j : Nat} (split : ended = done ++ i :: j :: more)
    {noted : List Status}
    (known : ∀ k, k < items.length → noted[k]? = some (if k ∈ done then outcome k else .running)) :
    (noted.eraseIdx i).any (·.isActive) = true := by
  have distinct : (done ++ i :: j :: more).Nodup := split ▸ ends.nodup_iff.mpr List.nodup_range
  have within : j < items.length := List.mem_range.mp (ends.mem_iff.mp (by simp [split]))
  have elsewhere : j ≠ i ∧ j ∉ done := by
    simp only [List.nodup_append, List.nodup_cons, List.mem_cons, not_or] at distinct
    exact ⟨fun same => distinct.2.1.1.1 same.symm,
      fun among => distinct.2.2 j among j (by simp) rfl⟩
  refine List.any_eq_true.mpr
    ⟨.running, List.mem_eraseIdx_iff_getElem?.mpr ⟨j, elsewhere.1, ?_⟩, rfl⟩
  rw [known j within, if_neg elsewhere.2]

include ends in
/-- When the last item comes to an end, each of the others has done so. -/
theorem mem_others_iff {done : List Nat} {i : Nat} (split : ended = done ++ [i])
    {noted : List Status} (length : noted.length = items.length)
    (known : ∀ k, k < items.length → noted[k]? = some (if k ∈ done then outcome k else .running))
    (status : Status) : status ∈ noted.eraseIdx i ↔ ∃ k ∈ done, outcome k = status := by
  have distinct : (done ++ [i]).Nodup := split ▸ ends.nodup_iff.mpr List.nodup_range
  have among (k : Nat) : k ∈ done ∨ k = i ↔ k < items.length := by
    rw [← List.mem_range, ← ends.mem_iff, split, List.mem_append, List.mem_singleton]
  have apart {k : Nat} (inDone : k ∈ done) : k ≠ i := by
    rintro rfl
    exact (List.disjoint_of_nodup_append distinct) inDone (List.mem_singleton_self k)
  rw [List.mem_eraseIdx_iff_getElem?]
  constructor
  · rintro ⟨k, other, found⟩
    have within : k < items.length := length ▸ (List.getElem?_eq_some_iff.mp found).1
    have inDone := ((among k).mpr within).resolve_right other
    rw [known k within, if_pos inDone] at found
    exact ⟨k, inDone, Option.some.inj found⟩
  · rintro ⟨k, inDone, rfl⟩
    refine ⟨k, apart inDone, ?_⟩
    rw [known k ((among k).mp (.inl inDone)), if_pos inDone]

end Schedule

/-! ### Runs -/

namespace Conductor

variable {c d : Conductor} {task : String} {route : Nat}

/-- From one conductor to another a host reports on the items of a task, in this order. It may do
other things as well, but it says nothing else about the task, and it does not ask the workflow to
stop or to run tasks again. -/
inductive Attends [Engine] (task : String) (route : Nat) (c : Conductor) :
    List (Nat × Status) → Conductor → Prop where
  | start : Attends task route c [] c
  | item {reports : List (Nat × Status)} {d : Conductor} {i : Nat} {status : Status}
      (result accumulated : Value) (word : status.IsWord) : Attends task route c reports d →
      Attends task route c (reports ++ [(i, status)])
        ((Operation.item task route i status result accumulated word).apply d)
  | other {reports : List (Nat × Status)} {d : Conductor} (op : Operation) :
      Attends task route c reports d →
      op.isRerun = false → op.isStop = false → (∀ report, op ≠ .update task route report) →
      ¬State.Reaches d.state (op.apply d).state task route →
      (op = .reload → (op.apply d).TriesOnce task) → Attends task route c reports (op.apply d)

theorem Attends.append [Engine] {reports : List (Nat × Status)}
    (attends : Attends task route c reports d) (more : List (Nat × Status))
    (words : ∀ report ∈ more, report.2.isKnown = true) :
    ∃ e, Attends task route c (reports ++ more) e := by
  induction more generalizing reports d with
  | nil => exact ⟨d, by rwa [List.append_nil]⟩
  | cons report rest ih =>
    have next := attends.item (i := report.1) .null .null (.inr (words report List.mem_cons_self))
    obtain ⟨e, last⟩ := ih next fun other among => words other (List.mem_cons_of_mem report among)
    rw [List.append_assoc] at last
    exact ⟨e, last⟩

section Items

variable {items : List Status} {started ended : List Nat} {outcome : Nat → Status}

def progress (count : Nat) (outcome : Nat → Status) (reports : List (Nat × Status)) : Status :=
  if reports.length < 2 * count then if .canceled ∈ reports.map (·.2) then .canceling else .running
  else Machine.Task.verdict ((List.range count).map outcome)

structure Follows (task : String) (route : Nat) (items : List Status) (outcome : Nat → Status)
    (reports : List (Nat × Status)) (d : Conductor) : Prop where
  watches : d.Watches task route
  tracks : reports.length < 2 * items.length → d.state.Tracks task route (recorded items reports)
  free : reports = [] → ∀ status ∈ d.state.latestStatus? task route,
    status ∉ [Status.pending, .pausing, .canceling]
  status : reports ≠ [] → d.state.latestStatus? task route = some
    (progress items.length outcome reports)

theorem Follows.other [Engine] {reports : List (Nat × Status)} {op : Operation}
    (nonempty : items ≠ []) (follows : Follows task route items outcome reports d)
    (host : op.isRerun = false) (goesOn : op.isStop = false)
    (other : ∀ report, op ≠ .update task route report)
    (unreached : ¬State.Reaches d.state (op.apply d).state task route)
    (reloads : op = .reload → (op.apply d).TriesOnce task) :
    Follows task route items outcome reports (op.apply d) := by
  have latest := follows.watches.latestStatus_apply host goesOn other
  refine ⟨follows.watches.apply host reloads, fun unfinished => ?_, fun none => ?_, fun begun => ?_⟩
  · obtain ⟨b, rest, staged, tracked⟩ := follows.tracks unfinished
    refine ⟨b, rest, (follows.watches.batches_apply host other unreached
      fun first known => ?_).trans staged, tracked⟩
    rw [staged] at known
    cases known
    rw [tracked, Option.getD_some, ← List.length_pos_iff, length_recorded, List.length_pos_iff]
    exact nonempty
  · rw [latest]
    exact follows.free none
  · rw [latest]
    exact follows.status begun

/-- A task that is neither waiting nor to stop runs when one of its items does, be it in a new
entry. -/
theorem Watches.led_to_running (watches : d.Watches task route)
    (free : ∀ status ∈ d.state.latestStatus? task route,
      status ∉ [Status.pending, .pausing, .canceling]) (others : List Status) :
    Machine.Task.step (d.state.foundStatus task route .running)
      (Machine.Task.itemSignal .running others) = .ok (some .running) := by
  cases latest : d.state.latest? task route with
  | none =>
    rw [State.foundStatus, latest]
    exact Machine.Task.step_running (.inl rfl) rfl (by decide) others
  | some entry =>
    have among : entry ∈ d.state.sequence := by
      obtain ⟨index, -, found⟩ := Option.bind_eq_some_iff.mp latest
      exact List.mem_of_getElem? found
    cases completed : entry.isCompleted with
    | true =>
      simp only [State.foundStatus, latest, completed]
      exact Machine.Task.step_running (.inl rfl) rfl (by decide) others
    | false =>
      rw [State.foundStatus_of_latest latest (by rw [completed]; rfl)]
      refine Machine.Task.step_running (watches.charted.grounded.entries entry among).status
        completed ?_ others
      exact free entry.status (by rw [State.latestStatus?, latest]; rfl)

variable {reports : List (Nat × Status)} {i : Nat} (nonempty : items ≠ [])
  (starts : started.Perm (List.range items.length)) (ends : ended.Perm (List.range items.length))

include nonempty starts in
theorem Follows.start_item [Engine] {before more : List Nat}
    (follows : Follows task route items outcome reports d) (split : started = before ++ i :: more)
    (same : reports = before.map fun k => (k, .running)) (result accumulated : Value)
    (word : Status.running.IsWord) : Follows task route items outcome (reports ++ [(i, .running)])
      ((Operation.item task route i .running result accumulated word).apply d) := by
  have positive := List.length_pos_iff.mpr nonempty
  have count : before.length + (more.length + 1) = items.length := by
    have length := starts.length_eq
    rwa [split, List.length_append, List.length_cons, List.length_range] at length
  have length : reports.length = before.length := by rw [same, List.length_map]
  have within : i < items.length := List.mem_range.mp (starts.mem_iff.mp (by simp [split]))
  have running (more : List (Nat × Status)) (all : ∀ report ∈ more, report.2 = .running)
      (few : more.length < 2 * items.length) : progress items.length outcome more = .running := by
    rw [progress, if_pos few, if_neg]
    intro among
    obtain ⟨report, inMore, canceled⟩ := List.mem_map.mp among
    cases canceled.symm.trans (all report inMore)
  have allRunning : ∀ report ∈ reports, report.2 = .running := by
    rw [same]
    intro report among
    obtain ⟨k, -, rfl⟩ := List.mem_map.mp among
    rfl
  have free : ∀ status ∈ d.state.latestStatus? task route,
      status ∉ [Status.pending, .pausing, .canceling] := by
    by_cases none : reports = []
    · exact follows.free none
    · rw [follows.status none, running reports allRunning (by omega)]
      intro status same
      cases same
      decide
  obtain ⟨latest, tracks⟩ :=
    follows.watches.item_led result accumulated word (follows.tracks (by omega))
    (by rw [length_recorded]; exact within) (by decide) (follows.watches.led_to_running free _)
  refine ⟨follows.watches.apply rfl (by rintro ⟨⟩), fun _ => ?_, fun none => ?_, fun _ => ?_⟩
  · rw [recorded_append]
    exact tracks rfl
  · simp at none
  · rw [latest, running]
    · rfl
    · simp only [List.mem_append, List.mem_singleton]
      rintro report (among | rfl)
      · exact allRunning report among
      · rfl
    · rw [List.length_append, length, List.length_singleton]
      omega

section Ending

variable {done more : List Nat} (split : ended = done ++ i :: more)
  (same : reports = started.map (fun k => (k, .running)) ++ done.map fun k => (k, outcome k))

include starts same in
theorem length_of_ending : reports.length = items.length + done.length := by
  rw [same, List.length_append, List.length_map, List.length_map, starts.length_eq,
    List.length_range]

include nonempty starts ends split same in
/-- When an item comes to an end the task goes on, and is to be canceled if an item has been. -/
theorem Follows.found_ending (follows : Follows task route items outcome reports d)
    (status : Status) :
    ∃ old, d.state.foundStatus task route status = old ∧ (old = .running ∨ old = .canceling) ∧
      (old = .canceling ↔ .canceled ∈ reports.map (·.2)) := by
  have positive := List.length_pos_iff.mpr nonempty
  have length := length_of_ending starts same
  have count := ends.length_eq
  rw [split, List.length_append, List.length_cons, List.length_range] at count
  have latest := follows.status (List.length_pos_iff.mp (by omega))
  rw [progress, if_pos (by omega)] at latest
  split at latest
  case isTrue canceled =>
    exact ⟨_, State.foundStatus_of_status latest rfl, .inr rfl, by simp only [canceled]⟩
  case isFalse fine =>
    exact ⟨_, State.foundStatus_of_status latest rfl, .inl rfl, by simp only [fine, reduceCtorEq]⟩

include starts ends split same in
theorem led_by_ending (completes : ∀ k, k < items.length → (outcome k).isCompleted = true)
    {old : Status} (goesOn : old = .running ∨ old = .canceling)
    (toCancel : old = .canceling ↔ .canceled ∈ reports.map (·.2)) : ∃ answer, Machine.Task.step old
        (Machine.Task.itemSignal (outcome i) ((recorded items reports).eraseIdx i)) = .ok answer ∧
      answer.getD old = progress items.length outcome (reports ++ [(i, outcome i)]) := by
  have count := ends.length_eq
  rw [split, List.length_append, List.length_cons, List.length_range] at count
  have length : (reports ++ [(i, outcome i)]).length = items.length + done.length + 1 := by
    rw [List.length_append, length_of_ending starts same, List.length_singleton]
  have completed := completes i (List.mem_range.mp (ends.mem_iff.mp (by simp [split])))
  have known (k : Nat) (here : k < items.length) :
      (recorded items reports)[k]? = some (if k ∈ done then outcome k else .running) := by
    rw [same]
    exact getElem?_recorded_ended starts done here
  cases more with
  | cons j more =>
    obtain ⟨answer, led, new⟩ :=
      Machine.Task.step_while_active goesOn completed (others_active ends split known)
    refine ⟨answer, led, new.trans ?_⟩
    rw [List.length_cons] at count
    have few : (reports ++ [(i, outcome i)]).length < 2 * items.length := by omega
    rw [progress, if_pos few]
    refine if_congr ?_ rfl rfl
    rw [toCancel, List.map_append, List.mem_append, List.map_singleton, List.mem_singleton]
    exact or_congr_right eq_comm
  | nil =>
    have others := mem_others_iff ends split (length_recorded items reports) known
    have finished : ((recorded items reports).eraseIdx i).all (·.isCompleted) = true := by
      refine List.all_eq_true.mpr fun status among => ?_
      obtain ⟨k, inDone, rfl⟩ := (others status).mp among
      exact completes k (List.mem_range.mp (ends.mem_iff.mp (by simp [split, inDone])))
    have agrees (canceling : old = .canceling) :
        .canceled ∈ (recorded items reports).eraseIdx i := by
      have canceled := toCancel.mp canceling
      rw [others]
      simpa [same, Function.comp_def] using canceled
    obtain ⟨answer, led, new⟩ := Machine.Task.step_last goesOn completed finished agrees
    refine ⟨answer, led, new.trans ?_⟩
    rw [List.length_nil] at count
    rw [progress, if_neg (by omega)]
    refine Machine.Task.verdict_congr fun status => ?_
    have all (k : Nat) : k ∈ List.range items.length ↔ k ∈ done ∨ k = i := by
      rw [← ends.mem_iff, split, List.mem_append, List.mem_singleton]
    rw [List.mem_cons, others, List.mem_map]
    simp only [all, or_and_right, exists_or, exists_eq_left]
    rw [or_comm, eq_comm]

include nonempty starts ends split same in
theorem Follows.end_item [Engine]
    (completes : ∀ k, k < items.length → (outcome k).isCompleted = true)
    (follows : Follows task route items outcome reports d) (result accumulated : Value)
    (word : (outcome i).IsWord) : Follows task route items outcome (reports ++ [(i, outcome i)])
      ((Operation.item task route i (outcome i) result accumulated word).apply d) := by
  have within : i < items.length := List.mem_range.mp (ends.mem_iff.mp (by simp [split]))
  have unfinished : reports.length < 2 * items.length := by
    have length := length_of_ending starts same
    have count := ends.length_eq
    rw [split, List.length_append, List.length_cons, List.length_range] at count
    omega
  have spoken : Signal.about .action (outcome i) .plain ∈ Signal.actionSignals := by
    have all : ∀ status ∈ Status.completed,
        Signal.about .action status .plain ∈ Signal.actionSignals := by decide
    exact all _ (Machine.Task.isCompleted_iff.mp (completes i within))
  obtain ⟨old, found, goesOn, toCancel⟩ :=
    follows.found_ending nonempty starts ends split same (outcome i)
  obtain ⟨answer, led, now⟩ := led_by_ending starts ends split same completes goesOn toCancel
  rw [← found] at led now
  obtain ⟨latest, tracks⟩ :=
    follows.watches.item_led result accumulated word (follows.tracks unfinished)
    (by rw [length_recorded]; exact within) spoken led
  rw [now] at latest tracks
  refine ⟨follows.watches.apply rfl (by rintro ⟨⟩), fun few => ?_, fun none => ?_, fun _ => latest⟩
  · rw [recorded_append]
    refine tracks ?_
    rw [progress, if_pos few]
    split <;> rfl
  · simp at none

end Ending

include nonempty starts ends in
theorem Attends.follows [Engine]
    (completes : ∀ k, k < items.length → (outcome k).isCompleted = true)
    (follows : Follows task route items outcome [] c) (attends : Attends task route c reports d)
    (begins : reports <+: schedule started ended outcome) :
    Follows task route items outcome reports d := by
  induction attends with
  | start => exact follows
  | item result accumulated word _ ih =>
    have before := ih ((List.prefix_append ..).trans begins)
    rcases schedule_concat begins
      with ⟨early, more, split, rfl, same⟩ | ⟨done, more, split, rfl, same⟩
    · exact before.start_item nonempty starts split same result accumulated word
    · exact before.end_item nonempty starts ends split same completes result accumulated word
  | other op _ host goesOn other unreached reloads ih =>
    exact (ih begins).other nonempty host goesOn other unreached reloads

end Items

/-- A task with items that is tried once only, and that is neither waiting nor to stop when its
items are started. In whichever order they are all started and then come to an end, the task is not
completed before the last of them is, and then it has come to what they have come to. -/
theorem status_of_items [Engine] {spec : Spec} {parent input : Value} {ops : List Operation}
    {x : Staged} {items : List Status} {outcome : Nat → Status} {started ended : List Nat}
    {reports : List (Nat × Status)} (made : make spec parent input = .ok c)
    (hosts : ∀ op ∈ ops, op.isRerun = false)
    (once : ∀ done, done <+: ops → (c.afterAll done).TriesOnce task)
    (staged : (c.afterAll ops).state.staged? task route = some x) (tracked : x.items = some items)
    (nonempty : items ≠ [])
    (free : ∀ entry, (c.afterAll ops).state.latest? task route = some entry →
      entry.status ∉ [Status.pending, .pausing, .canceling])
    (starts : started.Perm (List.range items.length)) (ends : ended.Perm (List.range items.length))
    (completes : ∀ i, i < items.length → (outcome i).isCompleted = true)
    (attends : Attends task route (c.afterAll ops) reports d)
    (begins : reports <+: schedule started ended outcome) (begun : reports ≠ []) :
    ∃ entry, d.state.latest? task route = some entry ∧
      (reports ≠ schedule started ended outcome → entry.isCompleted = false) ∧
      (reports = schedule started ended outcome →
        entry.status = Machine.Task.verdict ((List.range items.length).map outcome)) := by
  have fresh : c.Watches task route := watches_of_make made (once [] List.nil_prefix)
  have watches := fresh.afterAll hosts once
  have start : Follows task route items outcome [] (c.afterAll ops) := by
    refine ⟨watches, fun _ => State.tracks_iff.mpr ⟨x, staged, tracked⟩, fun _ status latest => ?_,
      fun none => ?_⟩
    · obtain ⟨entry, found, rfl⟩ := Option.map_eq_some_iff.mp latest
      exact free entry found
    · exact (none rfl).elim
  have length : (schedule started ended outcome).length = 2 * items.length := by
    rw [schedule, List.length_append, List.length_map, List.length_map, starts.length_eq,
      ends.length_eq, List.length_range]
    omega
  obtain ⟨entry, latest, status⟩ :=
    Option.map_eq_some_iff.mp
      ((attends.follows nonempty starts ends completes start begins).status begun)
  refine ⟨entry, latest, fun unfinished => ?_, fun finished => ?_⟩
  · have few : reports.length < 2 * items.length :=
      length ▸ Nat.lt_of_le_of_ne begins.length_le fun same => unfinished (begins.eq_of_length same)
    change entry.status.isCompleted = false
    rw [status, progress, if_pos few]
    split <;> rfl
  · rw [status, progress, if_neg]
    rw [finished, length]
    exact Nat.lt_irrefl _

/-- Three items are started; the second one fails, the third one is canceled, and the first one
succeeds. In between the host looks for more to start. -/
theorem status_of_items_sample : ∃ spec c d entry,
    Spec.make .workflow (Sample.batches .null) = .ok spec ∧ make spec .null .null = .ok c ∧
    Attends "batch" 0 (c.afterAll [.request .running, .next])
      (schedule [2, 0, 1] [1, 2, 0] ([Status.succeeded, .failed, .canceled].getD · .unset)) d ∧
    d.state.latest? "batch" 0 = some entry ∧ entry.status = .canceled := by
  let ops : List Operation := [.request .running, .next]
  let early : List Operation :=
    [Sample.item 2 .running (.inr rfl), Sample.item 0 .running (.inr rfl)]
  obtain ⟨spec, c, specified, made, checked⟩ := exists_make_of_any (p := fun _ c =>
    c.triesOnce "batch" && (c.afterAll [.request .running]).triesOnce "batch" &&
      (c.afterAll ops).triesOnce "batch" && ((c.afterAll ops).state.latest? "batch" 0).isNone &&
    ((c.afterAll ops).state.staged? "batch" 0).map (·.items) == some
    (some [.unset, .unset, .unset]) &&
    ((Operation.next.apply (c.afterAll (ops ++ early))).state.staged? "batch" 0).any
    (·.items.isSome))
    (show (Spec.make .workflow (Sample.batches .null)).toOption.any _ = true by decide +kernel)
  simp only [Bool.and_eq_true, triesOnce_iff, Option.isNone_iff_eq_none, beq_iff_eq] at checked
  obtain ⟨⟨⟨⟨⟨fresh, requested⟩, offered⟩, unstarted⟩, staged⟩, known⟩ := checked
  obtain ⟨x, found, tracked⟩ := Option.map_eq_some_iff.mp staged
  have once : ∀ done, done <+: ops → (c.afterAll done).TriesOnce "batch" := by
    intro done begins
    rcases List.prefix_cons_iff.mp begins with rfl | ⟨rest, rfl, later⟩
    · exact fresh
    rcases List.prefix_cons_iff.mp later with rfl | ⟨rest, rfl, last⟩
    · exact requested
    · cases List.prefix_nil.mp last
      exact offered
  have begun : Attends "batch" 0 (c.afterAll ops) [(2, .running), (0, .running)]
      (c.afterAll (ops ++ early)) :=
    (Attends.start.item .null .null (.inr rfl)).item .null .null (.inr rfl)
  have looked :=
    begun.other .next rfl rfl (by intro _ same; cases same) (State.not_reaches_of_items known)
    (by intro same; cases same)
  obtain ⟨d, attends⟩ := looked.append
    [(1, .running), (1, .failed), (2, .canceled), (0, .succeeded)] (by decide)
  have whole : [(2, .running), (0, .running), (1, .running), (1, .failed), (2, .canceled),
    (0, .succeeded)] <+: schedule [2, 0, 1] [1, 2, 0]
    ([Status.succeeded, .failed, .canceled].getD · .unset) := List.prefix_rfl
  obtain ⟨entry, latest, -, status⟩ :=
    status_of_items made (by decide) once found tracked (by decide)
      (fun entry impossible => by cases unstarted.symm.trans impossible) (by decide) (by decide)
      (by decide) attends whole (by decide)
  exact ⟨spec, c, d, entry, specified, made, attends, latest, status rfl⟩

end Conductor

end Orchestration
