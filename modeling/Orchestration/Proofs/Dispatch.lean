import Mathlib.Data.List.Sort
import Orchestration.Proofs.Bystanders
import Orchestration.Proofs.Course.Window

/-!
How the items of a task are handed out over a whole run.

A host keeps a ledger of the items that it has been offered. It reports that an item has been
started before it asks for more, and from then on that the item is active until it is completed.
Then every item is offered once, in order, and no more items are active than may be, unless some
have been reported to be pending first: the room of such an item is given to another one, and is not
given back when it becomes active.
-/

namespace Orchestration

/-! ### Ledgers -/

/-- What a host knows of the items of a task: those that have been offered, and of these those that
it has not reported on, those that were active at first and those that were pending at first. It
forgets items that are completed. -/
structure Ledger where
  given : List Nat
  waiting : List Nat
  busy : List Nat
  idle : List Nat

namespace Ledger

def blank : Ledger := ⟨[], [], [], []⟩

def offered (l : Ledger) (items : List Nat) : Ledger :=
  { l with given := l.given ++ items, waiting := items }

/-- What a host may report of an item, and how it notes that: a status to start with, any number of
statuses in which the item is active, and a status in which it is completed. -/
inductive Notes (l : Ledger) (i : Nat) : Status → Ledger → Prop where
  | start {status : Status} : i ∈ l.waiting → status.isStarting = true → status.isActive = true →
      Notes l i status { l with waiting := l.waiting.erase i, busy := i :: l.busy }
  | pend : i ∈ l.waiting → Notes l i .pending
      { l with waiting := l.waiting.erase i, idle := i :: l.idle }
  | work {status : Status} : i ∈ l.busy ∨ i ∈ l.idle → status.isActive = true → Notes l i status l
  | finish {status : Status} : i ∈ l.busy ∨ i ∈ l.idle → status.isCompleted = true →
      Notes l i status { l with busy := l.busy.erase i, idle := l.idle.erase i }

/-- Of so many items the first ones have been offered, and only as many of them are waiting or busy
as may be. -/
structure Fair (count limit : Nat) (l : Ledger) : Prop where
  given : l.given = List.range l.given.length
  within : l.given.length ≤ count
  apart : (l.waiting ++ (l.busy ++ l.idle)).Nodup
  known : l.waiting ++ (l.busy ++ l.idle) ⊆ l.given
  room : l.waiting.length + l.busy.length ≤ limit

structure Allows (l : Ledger) (i : Nat) (status : Status) : Prop where
  unset : status = .unset ↔ i ∉ l.given ∨ i ∈ l.waiting
  busy : i ∈ l.busy → status.isActive = true
  active : status.isActive = true → i ∈ l.busy ∨ i ∈ l.idle

variable {l l' : Ledger} {count limit i j : Nat} {status other : Status} {items : List Status}

theorem fair_blank : blank.Fair count limit where
  given := rfl
  within := Nat.zero_le count
  apart := List.nodup_nil
  known := List.nil_subset _
  room := Nat.zero_le limit

theorem Fair.nodup (fair : l.Fair count limit) :
    l.waiting.Nodup ∧ l.busy.Nodup ∧ l.idle.Nodup ∧ (∀ i ∈ l.waiting, i ∉ l.busy ∧ i ∉ l.idle) ∧
      ∀ i ∈ l.busy, i ∉ l.idle := by
  have apart := fair.apart
  simp only [List.nodup_append, List.mem_append] at apart
  grind

theorem Fair.lt_of_mem (fair : l.Fair count limit) (given : i ∈ l.given) : i < l.given.length :=
  List.mem_range.mp (fair.given ▸ given)

theorem Notes.subperm (notes : l.Notes i status l') :
    (l'.waiting ++ (l'.busy ++ l'.idle)).Subperm (l.waiting ++ (l.busy ++ l.idle)) := by
  have moves (here : i ∈ l.waiting) : (l.waiting.erase i ++ i :: (l.busy ++ l.idle)).Perm
      (l.waiting ++ (l.busy ++ l.idle)) :=
    List.perm_middle.trans ((List.perm_cons_erase here).symm.append_right _)
  cases notes with
  | start here => exact (moves here).subperm
  | pend here => exact ((List.perm_middle.append_left _).trans (moves here)).subperm
  | work => exact List.Subperm.refl _
  | finish =>
    exact ((List.Sublist.refl _).append (List.erase_sublist.append List.erase_sublist)).subperm

theorem Notes.given_eq (notes : l.Notes i status l') : l'.given = l.given := by
  cases notes <;> rfl

theorem Notes.room_le (notes : l.Notes i status l') :
    l'.waiting.length + l'.busy.length ≤ l.waiting.length + l.busy.length := by
  cases notes with
  | start here =>
    have positive := List.length_pos_of_mem here
    have length := List.length_erase_of_mem here
    dsimp only [List.length_cons]
    omega
  | pend => exact Nat.add_le_add_right List.length_erase_le _
  | work => exact Nat.le_refl _
  | finish => exact Nat.add_le_add_left List.length_erase_le _

theorem Fair.notes (fair : l.Fair count limit) (notes : l.Notes i status l') :
    l'.Fair count limit where
  given := notes.given_eq ▸ fair.given
  within := notes.given_eq ▸ fair.within
  apart := by
    obtain ⟨_, perm, sublist⟩ := notes.subperm
    exact perm.nodup_iff.mp (fair.apart.sublist sublist)
  known _ among := notes.given_eq ▸ fair.known (notes.subperm.subset among)
  room := notes.room_le.trans fair.room

theorem Notes.allows_of_ne (notes : l.Notes i status l') (elsewhere : j ≠ i)
    (allows : l.Allows j other) : l'.Allows j other := by
  obtain ⟨unset, busy, active⟩ := allows
  cases notes with
  | start | pend | work | finish => constructor <;> grind

theorem Notes.spoken (notes : l.Notes i status l') :
    Signal.about .action status .plain ∈ Signal.actionSignals := by
  have active : ∀ status ∈ Status.active,
      Signal.about .action status .plain ∈ Signal.actionSignals := by decide
  have completed : ∀ status ∈ Status.completed,
      Signal.about .action status .plain ∈ Signal.actionSignals := by decide
  cases notes with
  | start _ _ working | work _ working => exact active status (List.contains_iff_mem.mp working)
  | pend => decide
  | finish _ ended => exact completed status (List.contains_iff_mem.mp ended)

theorem Notes.mem_given (notes : l.Notes i status l') (fair : l.Fair count limit) :
    i ∈ l.given := by
  refine fair.known ?_
  cases notes with
  | start here | pend here => simp [here]
  | work here | finish here => simp [here]

theorem Notes.allows (notes : l.Notes i status l') (fair : l.Fair count limit) :
    l'.Allows i status := by
  obtain ⟨waiting, busy, idle, apart, apartIdle⟩ := fair.nodup
  have known (j : Nat) (among : j ∈ l.waiting ∨ j ∈ l.busy ∨ j ∈ l.idle) : j ∈ l.given :=
    fair.known (by simpa using among)
  cases notes with
  | start here starting active =>
    have set : status ≠ .unset := by rintro rfl; cases active
    constructor <;> grind
  | pend here => constructor <;> grind [Status.isActive, Status.active]
  | work here active =>
    have set : status ≠ .unset := by rintro rfl; cases active
    constructor <;> grind
  | finish here completed =>
    have set : status ≠ .unset := by rintro rfl; cases completed
    have inactive : status.isActive = false := by cases status <;> first | rfl | cases completed
    constructor <;> grind

/-! ### Windows -/

def Accounts (l : Ledger) (items : List Status) : Prop :=
  ∀ i status, items[i]? = some status → l.Allows i status

theorem Accounts.set (accounts : l.Accounts items) (notes : l.Notes i status l')
    (fair : l.Fair count limit) : l'.Accounts (items.set i status) := by
  intro j other found
  rw [List.getElem?_set] at found
  split at found
  case isTrue here =>
    subst here
    split at found
    · cases found
      exact notes.allows fair
    · cases found
  case isFalse elsewhere => exact notes.allows_of_ne (Ne.symm elsewhere) (accounts j other found)

/-- No more items are active than may be, and those that were pending at first. -/
theorem Fair.countP_le (fair : l.Fair count limit) (accounts : l.Accounts items) :
    items.countP (·.isActive) ≤ limit + l.idle.length := by
  have among : itemsWith (·.isActive) items ⊆ l.busy ++ l.idle := by
    intro i active
    obtain ⟨status, found, active⟩ := mem_itemsWith.mp active
    exact List.mem_append.mpr ((accounts i status found).active active)
  have few :=
    (List.subperm_of_subset ((pairwise_itemsWith _ items).imp Nat.ne_of_lt) among).length_le
  rw [length_itemsWith, List.length_append] at few
  have room := fair.room
  omega

theorem Fair.busy_le (fair : l.Fair count limit) (accounts : l.Accounts items)
    (length : items.length = count) : l.busy.length ≤ items.countP (·.isActive) := by
  rw [← length_itemsWith]
  refine (List.subperm_of_subset fair.nodup.2.1 fun i busy => ?_).length_le
  have within : i < items.length := by
    rw [length]
    exact (fair.lt_of_mem (fair.known (by simp [busy]))).trans_le fair.within
  have found := List.getElem?_eq_getElem within
  exact mem_itemsWith.mpr ⟨_, found, (accounts i _ found).busy busy⟩

/-- If a host has reported on every item that it was offered, those have not been started that come
after them. -/
theorem Fair.unstarted_eq (fair : l.Fair count limit) (accounts : l.Accounts items)
    (reported : l.waiting = []) :
    unstarted items = List.range' l.given.length (items.length - l.given.length) := by
  refine (pairwise_itemsWith _ items).eq_of_mem_iff (List.pairwise_lt_range' ..) fun i => ?_
  have unset (status : Status) (found : items[i]? = some status) : status = .unset ↔
      l.given.length ≤ i := by
    rw [(accounts i status found).unset, reported, fair.given]
    simp
  rw [mem_itemsWith, List.mem_range'_1]
  constructor
  · rintro ⟨status, found, fresh⟩
    have within := (List.getElem?_eq_some_iff.mp found).1
    have past := (unset status found).mp (eq_of_beq fresh)
    omega
  · rintro ⟨past, within⟩
    have found := List.getElem?_eq_getElem (l := items) (i := i) (by omega)
    exact ⟨_, found, beq_iff_eq.mpr ((unset _ found).mpr past)⟩

theorem Fair.offered (fair : l.Fair count limit) (accounts : l.Accounts items)
    (reported : l.waiting = []) (length : items.length = count) :
    (l.offered (window limit items)).Fair count limit ∧
      (l.offered (window limit items)).Accounts items := by
  have busy := fair.busy_le accounts length
  have room := fair.room
  have within := fair.within
  have shape : ∃ size, window limit items = List.range' l.given.length size ∧
      size ≤ limit - items.countP (·.isActive) ∧ size ≤ count - l.given.length := by
    refine ⟨min (limit - items.countP (·.isActive)) (items.length - l.given.length),
      ?_, by omega, by omega⟩
    rw [window, fair.unstarted_eq accounts reported, List.range'_eq_map_range, ← List.map_take,
      List.take_range, ← List.range'_eq_map_range]
  obtain ⟨size, shape, roomy, remaining⟩ := shape
  rw [shape]
  have old (i : Nat) (among : i ∈ l.busy ∨ i ∈ l.idle) : i ∈ l.given ∧ i < l.given.length := by
    have given : i ∈ l.given := fair.known (by simp [among])
    exact ⟨given, fair.lt_of_mem given⟩
  constructor
  · refine ⟨?_, ?_, ?_, ?_, ?_⟩
    · dsimp only [Ledger.offered]
      nth_rewrite 1 [fair.given]
      rw [List.length_append, List.length_range', List.range_eq_range', List.range_eq_range',
        ← List.range'_append_1, Nat.zero_add]
    · dsimp only [Ledger.offered]
      rw [List.length_append, List.length_range']
      omega
    · refine List.nodup_append.mpr ⟨List.nodup_range', (List.nodup_append.mp fair.apart).2.1, ?_⟩
      rintro i new _ among rfl
      have past := (List.mem_range'_1.mp new).1
      have before := (old i (List.mem_append.mp among)).2
      omega
    · refine List.append_subset.mpr ⟨List.subset_append_right .., fun i among => ?_⟩
      exact List.mem_append_left _ (old i (List.mem_append.mp among)).1
    · dsimp only [Ledger.offered]
      rw [List.length_range']
      omega
  · intro i status found
    obtain ⟨unset, isBusy, active⟩ := accounts i status found
    refine ⟨?_, isBusy, active⟩
    have apart : i ∈ List.range' l.given.length size → i ∉ l.given := by
      intro new given
      exact Nat.not_lt_of_le (List.mem_range'_1.mp new).1 (fair.lt_of_mem given)
    rw [unset, reported, Ledger.offered, List.mem_append]
    grind

end Ledger

/-! ### Tasks -/

structure Ledger.Covers (count limit : Nat) (l : Ledger) (staged : List Batch) : Prop where
  fair : l.Fair count limit
  few : staged.length ≤ 1
  counts : ∀ b ∈ staged, b.Counts count
  tracked : ∀ b ∈ staged, b.items = none → l.given = []
  accounts : ∀ b ∈ staged, l.Accounts (b.statuses count)

namespace Ledger.Covers

variable {l l' : Ledger} {count limit i : Nat} {status : Status}
  {staged left : List Batch} {b : Batch}

theorem unstaged (fair : l.Fair count limit) : l.Covers count limit [] where
  fair := fair
  few := Nat.zero_le 1
  counts _ impossible := by cases impossible
  tracked _ impossible := by cases impossible
  accounts _ impossible := by cases impossible

theorem single (fair : l.Fair count limit) (counts : b.Counts count)
    (tracked : b.items = none → l.given = []) (accounts : l.Accounts (b.statuses count)) :
    l.Covers count limit [b] where
  fair := fair
  few := Nat.le_refl 1
  counts := by simpa using counts
  tracked := by simpa using tracked
  accounts := by simpa using accounts

theorem fresh (fair : l.Fair count limit) (nothing : l.given = []) (unknown : b.items = none) :
    l.Covers count limit [b] := by
  refine single fair (fun items known => ?_) (fun _ => nothing) fun i status found => ?_
  · cases unknown.symm.trans known
  rw [Batch.statuses, unknown, Option.getD_none, List.getElem?_replicate] at found
  split at found
  · cases found
    have empty : l.waiting ++ (l.busy ++ l.idle) = [] := List.subset_nil.mp (nothing ▸ fair.known)
    obtain ⟨waiting, busy, idle⟩ : l.waiting = [] ∧ l.busy = [] ∧ l.idle = [] := by
      simpa using empty
    constructor <;> simp [nothing, busy, idle, Status.isActive, Status.active]
  · cases found

theorem offered_nil (reported : l.waiting = []) : l.offered [] = l := by
  rw [offered, List.append_nil, ← reported]

/-- What a call does is covered when the host has reported on every item that it was offered. -/
theorem dispatches (covers : l.Covers count limit staged) (reported : l.waiting = [])
    {items : List (List (Option Nat))} (done : Dispatches count limit staged left items) :
    (l.offered (items.flatten.filterMap id)).Covers count limit left := by
  have begun {b : Batch} (covers : l.Covers count limit [b]) : (b.begun count).Counts count ∧
      (b.begun count).statuses count = b.statuses count := by
    have counts := covers.counts b (List.mem_singleton_self b)
    refine ⟨fun items known => ?_, rfl⟩
    cases known
    exact counts.length_statuses
  cases done with
  | nothing =>
    rw [List.flatten_nil, List.filterMap_nil, offered_nil reported]
    exact covers
  | begin b =>
    obtain ⟨counts, same⟩ := begun covers
    rw [List.flatten_nil, List.filterMap_nil, offered_nil reported]
    refine single covers.fair counts (fun unknown => by cases unknown) ?_
    rw [same]
    exact covers.accounts b (List.mem_singleton_self b)
  | window b =>
    obtain ⟨counts, same⟩ := begun covers
    have items :
        [(window limit (b.statuses count)).map some].flatten.filterMap id = window limit
          (b.statuses count) := by
      simp
    rw [items]
    obtain ⟨fair, accounts⟩ :=
      covers.fair.offered (covers.accounts b (List.mem_singleton_self b)) reported
      (covers.counts b (List.mem_singleton_self b)).length_statuses
    exact single fair counts (fun unknown => by cases unknown) (same ▸ accounts)

theorem notes {items : List Status} (covers : l.Covers count limit [b])
    (notes : l.Notes i status l') (tracked : b.items = some items) (marked : Bool) :
    l'.Covers count limit [{ b with items := some (items.set i status), completed := marked }] := by
  have counts := covers.counts b (List.mem_singleton_self b)
  have accounts := covers.accounts b (List.mem_singleton_self b)
  rw [Batch.statuses, tracked, Option.getD_some] at accounts
  refine single (covers.fair.notes notes) (fun noted known => ?_) (fun unknown => by cases unknown)
    (accounts.set notes covers.fair)
  cases known
  rw [List.length_set]
  exact counts items tracked

end Ledger.Covers

/-! ### Runs -/

theorem State.batches_opened (context : Node) (roots : List Vertex) (task : String) (route : Nat) :
    (opened context roots).batches task route =
      (roots.filter fun v => v.id == task && 0 == route).map fun _ => ⟨none, true, false⟩ := by
  suffices general : ∀ s : State, (roots.foldl stageRoot s).batches task route =
      s.batches task route ++ (roots.filter fun v => v.id == task && 0 == route).map fun _ =>
      ⟨none, true, false⟩ from general _
  induction roots with
  | nil => exact fun s => (List.append_nil _).symm
  | cons v rest ih =>
    intro s
    have first : (s.stageRoot v).batches task route = s.batches task route ++
        ([v].filter fun v => v.id == task && 0 == route).map fun _ => ⟨none, true, false⟩ := by
      rw [stageRoot, batches, stage, List.filter_append, List.map_append]
      refine congrArg (s.batches task route ++ ·) ?_
      simp only [List.filter_cons, List.filter_nil, Staged.isAt]
      split <;> rfl
    rw [List.foldl_cons, ih, first, List.append_assoc, ← List.map_append, ← List.filter_append]
    rfl

namespace Conductor

open Conducting (result)

variable {c d : Conductor} {task : String} {route count limit : Nat} {l l' : Ledger}

def itemsNext [Engine] (task : String) (route : Nat) (c : Conductor) : List Nat :=
  match (result nextTasks c).1 with
  | .ok offers => (itemsOffered task route offers).flatten.filterMap id
  | .error _ => []

/-- A host works off the items of a task. It reports on every item that it has been offered before
it asks for more, and gives no other reports on the task. Once items have been offered, no task goes
on to this one. -/
inductive Serves [Engine] (task : String) (route count limit : Nat) (c : Conductor) :
    Ledger → Conductor → Prop where
  | start : Serves task route count limit c .blank c
  | next {l : Ledger} {d : Conductor} : Serves task route count limit c l d → l.waiting = [] →
      d.RendersItems count limit task route →
      Serves task route count limit c (l.offered (d.itemsNext task route)) (Operation.next.apply d)
  | item {l l' : Ledger} {d : Conductor} {i : Nat} {status : Status} (result accumulated : Value)
      (word : status.IsWord) : Serves task route count limit c l d → l.Notes i status l' →
      ¬State.Reaches d.state ((Operation.item task route i status result accumulated word).apply
        d).state task route → Serves task route count limit c l'
        ((Operation.item task route i status result accumulated word).apply d)
  | other {l : Ledger} {d : Conductor} {op : Operation} : Serves task route count limit c l d →
      op.isRerun = false → op ≠ .next → (∀ report, op ≠ .update task route report) →
      (l.given ≠ [] → ¬State.Reaches d.state (op.apply d).state task route) →
      (op = .reload → (op.apply d).TriesOnce task) → Serves task route count limit c l (op.apply d)

theorem covers_of_make [Engine] {spec : Spec} {parent input : Value}
    (made : make spec parent input = .ok c) (once : c.TriesOnce task) :
    Ledger.blank.Covers count limit (c.state.batches task route) := by
  rcases make_eq_ok made with ⟨noted, -, rfl⟩ | ⟨context, g, found, composed, rfl⟩
  · obtain ⟨_, impossible, -⟩ := once.graph
    cases impossible
  have named : (g.roots.map (·.id)).Nodup := by
    have sorted : g.roots.Perm _ := List.mergeSort_perm _ _
    refine (sorted.map (·.id)).nodup_iff.mpr ?_
    exact (Spec.drawn_compose composed).named.sublist (List.filter_sublist.map _)
  have few : (g.roots.filter fun v => v.id == task && 0 == route).length ≤ 1 := by
    rw [← List.countP_eq_length_filter]
    calc g.roots.countP (fun v => v.id == task && 0 == route)
      _ ≤ g.roots.countP (·.id == task) :=
        List.countP_mono_left fun v _ both => (Bool.and_eq_true_iff.mp both).1
      _ = (g.roots.map (·.id)).count task := by rw [List.count, List.countP_map]; rfl
      _ ≤ 1 := List.nodup_iff_count_le_one.mp named task
  dsimp only
  rw [State.batches_opened]
  generalize (g.roots.filter fun v => v.id == task && 0 == route) = own at few
  cases own with
  | nil => exact .unstaged Ledger.fair_blank
  | cons v rest =>
    obtain rfl : rest = [] := List.eq_nil_of_length_eq_zero (by simpa using few)
    exact .fresh Ledger.fair_blank rfl rfl

theorem Watches.covers_next [Engine] (watches : c.Watches task route)
    (covers : l.Covers count limit (c.state.batches task route)) (positive : 0 < count)
    (reported : l.waiting = []) (renders : c.RendersItems count limit task route) :
    (l.offered (c.itemsNext task route)).Covers count limit
      ((Operation.next.apply c).state.batches task route) := by
  have ends :=
    nextTasks_dispatches watches.charted.grounded covers.few covers.counts positive renders
  rw [Operation.apply, Operation.run, Conducting.after_bind_pure]
  unfold itemsNext
  cases answered : result nextTasks c with
  | mk answer d =>
    rw [Conducting.after_eq answered]
    cases answer with
    | ok offers => exact covers.dispatches reported (ends.1 _ _ answered)
    | error e => exact covers.dispatches reported (ends.2 _ _ answered)

theorem Watches.covers_item [Engine] (watches : c.Watches task route)
    (covers : l.Covers count limit (c.state.batches task route)) {i : Nat} {status : Status}
    (notes : l.Notes i status l') (result accumulated : Value) (word : status.IsWord) :
    let d := (Operation.item task route i status result accumulated word).apply c
    ¬State.Reaches c.state d.state task route →
    l'.Covers count limit (d.state.batches task route) := by
  intro d unreached
  cases staged : c.state.batches task route with
  | nil =>
    have unstaged : d.state.batches task route = [] := watches.report_unstaged _ staged unreached
    rw [unstaged]
    exact .unstaged (covers.fair.notes notes)
  | cons b rest =>
    rw [staged] at covers
    obtain rfl : rest = [] := List.eq_nil_of_length_eq_zero (by simpa using covers.few)
    have given := notes.mem_given covers.fair
    cases tracked : b.items with
    | none => cases covers.tracked b (List.mem_singleton_self b) tracked ▸ given
    | some items =>
      have within : i < items.length := by
        rw [covers.counts b (List.mem_singleton_self b) items tracked]
        exact (covers.fair.lt_of_mem given).trans_le covers.fair.within
      rcases watches.item_staged result accumulated word staged tracked within
        notes.spoken unreached with
        left | ⟨marked, noted⟩
      · rw [left]
        exact .unstaged (covers.fair.notes notes)
      · rw [noted]
        exact covers.notes notes tracked marked

theorem Watches.covers_other [Engine] (watches : c.Watches task route)
    (covers : l.Covers count limit (c.state.batches task route)) {op : Operation}
    (host : op.isRerun = false) (notNext : op ≠ .next)
    (elsewhere : ∀ report, op ≠ .update task route report)
    (unreached : l.given ≠ [] → ¬State.Reaches c.state (op.apply c).state task route) :
    l.Covers count limit ((op.apply c).state.batches task route) := by
  obtain ⟨-, -, same | ⟨⟨b, unknown, refreshed⟩, reaches⟩ | ⟨next, -⟩⟩ :=
    watches.charted.spares host watches.once.named elsewhere
  · rw [State.batches_sketch, State.batches_sketch] at same
    rw [same]
    exact covers
  · have nothing : l.given = [] := by
      by_contra given
      exact unreached given reaches
    have alone : (c.state.batches task route).tail = [] := by
      refine List.eq_nil_of_length_eq_zero ?_
      rw [List.length_tail, Nat.sub_eq_zero_of_le covers.few]
    rw [State.batches_sketch, State.batches_sketch, alone] at refreshed
    rw [refreshed]
    exact .fresh covers.fair nothing unknown
  · exact (notNext next).elim

/-- The ledger of a host that works off the items covers the task all along. -/
theorem Serves.covers [Engine] {spec : Spec} {parent input : Value}
    (made : make spec parent input = .ok c) (once : c.TriesOnce task) (positive : 0 < count)
    (serves : Serves task route count limit c l d) :
    d.Watches task route ∧ l.Covers count limit (d.state.batches task route) := by
  induction serves with
  | start => exact ⟨watches_of_make made once, covers_of_make made once⟩
  | next _ reported renders ih =>
    obtain ⟨watches, covers⟩ := ih
    refine ⟨watches.apply rfl (by intro impossible; cases impossible), ?_⟩
    exact watches.covers_next covers positive reported renders
  | item result accumulated word _ notes unreached ih =>
    obtain ⟨watches, covers⟩ := ih
    refine ⟨watches.apply rfl (by intro impossible; cases impossible), ?_⟩
    exact watches.covers_item covers notes result accumulated word unreached
  | other _ host notNext elsewhere unreached reloads ih =>
    obtain ⟨watches, covers⟩ := ih
    exact ⟨watches.apply host reloads, watches.covers_other covers host notNext elsewhere unreached⟩

/-- Over a run in which a host works off the items of a task, the items are offered one after the
other and each of them once. At no time are more items active than may be, apart from items that
were pending at first. And a call that goes well while the workflow runs offers as many of the items
that have not been started as may be active besides those that are, from the first one on. -/
theorem items_handed_out [Engine] {spec : Spec} {parent input : Value}
    (made : make spec parent input = .ok c) (once : c.TriesOnce task) (positive : 0 < count)
    (serves : Serves task route count limit c l d) :
    (∀ x ∈ d.state.staged, x.isAt task route = true →
      (x.items.getD []).countP (·.isActive) ≤ limit + l.idle.length) ∧
      l.given = List.range l.given.length ∧
      (d.state.status = .running → d.rendersAll = true → d.RendersItems count limit task route →
        ∀ x ∈ d.state.staged, x.isAt task route = true → x.isReady = true →
          let items := x.items.getD (List.replicate count .unset)
          ∃ offers, (result nextTasks d).1 = .ok offers ∧ itemsOffered task route offers =
            if window limit items = [] then [] else [(window limit items).map some]) := by
  obtain ⟨watches, covers⟩ := serves.covers made once positive
  have batch {x : Staged} (among : x ∈ d.state.staged) (here : x.isAt task route = true) :
      x.batch ∈ d.state.batches task route :=
    List.mem_map_of_mem (List.mem_filter.mpr ⟨among, here⟩)
  refine ⟨fun x among here => ?_, covers.fair.given, ?_⟩
  · have accounts := covers.accounts x.batch (batch among here)
    cases known : x.items with
    | none => exact Nat.zero_le _
    | some items =>
        rw [Batch.statuses, show x.batch.items = some items from known,
          Option.getD_some] at accounts
        exact covers.fair.countP_le accounts
  · intro running all renders x among here ready
    have staged : d.state.batches task route = [x.batch] := by
      obtain ⟨b, alone⟩ := List.length_eq_one_iff.mp
        (Nat.le_antisymm covers.few (List.length_pos_of_mem (batch among here)))
      have own := batch among here
      rw [alone, List.mem_singleton] at own
      rw [alone, own]
    rw [Staged.isReady, Bool.and_eq_true, Bool.not_eq_true'] at ready
    exact nextTasks_window watches.charted.grounded running staged ready.1 ready.2
      (covers.counts x.batch (batch among here)) positive renders all

/-- One of two items that have been offered is reported to be pending. Then the third item is
offered. -/
theorem items_handed_out_sample : ∃ spec c d offers,
    Spec.make .workflow (Sample.batches (.int 2)) = .ok spec ∧ make spec .null .null = .ok c ∧
    Serves "batch" 0 3 2 c ⟨[0, 1], [], [0], [1]⟩ d ∧ (result nextTasks d).1 = .ok offers ∧
    itemsOffered "batch" 0 offers = [[some 2]] := by
  let ops : List Operation := [.request .running, .next]
  let reports : List Operation :=
    [Sample.item 0 .running (.inr rfl), Sample.item 1 .pending (.inr rfl)]
  obtain ⟨spec, c, specified, made, checked⟩ := exists_make_of_any (p := fun _ c =>
    let asked := c.afterAll [.request .running]
    let told := c.afterAll (ops ++ reports)
    c.triesOnce "batch" && asked.rendersItems 3 2 "batch" 0 &&
    asked.itemsNext "batch" 0 == [0, 1] &&
    ((c.afterAll (ops ++ reports.take 1)).state.staged? "batch" 0).any (·.items.isSome) &&
    (told.state.staged? "batch" 0).any (·.items.isSome) && told.rendersItems 3 2 "batch" 0 &&
    told.rendersAll && told.state.status == .running &&
    (told.state.staged? "batch" 0).map (fun x => (x.isReady, x.items)) ==
      some (true, some [.running, .pending, .unset]))
    (show (Spec.make .workflow (Sample.batches (.int 2))).toOption.any _ = true by decide +kernel)
  simp only [Bool.and_eq_true, triesOnce_iff, rendersItems_iff, beq_iff_eq] at checked
  obtain ⟨⟨⟨⟨⟨⟨⟨⟨once, renders⟩, first⟩, tracked⟩, trackedNow⟩, rendersNow⟩, rendersAll⟩,
    running⟩, staged⟩ :=
    checked
  obtain ⟨x, found, marks⟩ := Option.map_eq_some_iff.mp staged
  obtain ⟨ready, items⟩ := Prod.mk.inj marks
  obtain ⟨among, named, placed⟩ := State.staged?_eq_some found
  have here : x.isAt "batch" 0 = true := Staged.isAt_iff.mpr (by rw [named, placed])
  have asked : Serves "batch" 0 3 2 c .blank (c.afterAll [.request .running]) :=
    .other .start rfl (by intro same; cases same) (by intro _ same; cases same)
      (fun nothing => (nothing rfl).elim) (by intro same; cases same)
  have offered : Serves "batch" 0 3 2 c ⟨[0, 1], [0, 1], [], []⟩ (c.afterAll ops) := by
    have next := asked.next rfl renders
    rw [first] at next
    exact next
  have started : Serves "batch" 0 3 2 c ⟨[0, 1], [1], [0], []⟩
      (c.afterAll (ops ++ reports.take 1)) :=
    .item .null .null (.inr rfl) offered (.start (by decide) rfl rfl)
      (State.not_reaches_of_items tracked)
  have serves : Serves "batch" 0 3 2 c ⟨[0, 1], [], [0], [1]⟩ (c.afterAll (ops ++ reports)) :=
    .item .null .null (.inr rfl) started (.pend (by decide)) (State.not_reaches_of_items trackedNow)
  obtain ⟨-, -, window⟩ := items_handed_out made once (by decide) serves
  obtain ⟨offers, answered, offeredNow⟩ := window running rendersAll rendersNow x among here ready
  rw [items] at offeredNow
  exact ⟨spec, c, _, offers, specified, made, serves, answered, offeredNow⟩

end Conductor

/-! ### What is not limited, and what is not offered -/

namespace Sample

def joined (limit : Value) : Value := .fields [("tasks", .fields [
  ("early", .fields [("with", repetition .null), ("action", .str "core.noop"),
    ("next", .list [.fields [("do", .str "batch")]])]),
  ("batch", .fields [("join", .int 2), ("with", repetition limit), ("action", .str "core.noop")])])]

/-- A task goes on to the task with items when one of its own items has failed, and another one is
started later. -/
def reaching : List Operation :=
  [.request .running, .next, .item "early" 0 0 .running .null .null (.inr rfl), .request .pausing,
    .item "early" 0 0 .failed .null .null (.inr rfl),
    .item "early" 0 1 .running .null .null (.inr rfl)]

/-- The second item is pending until the third one has been started. -/
def pending : List Operation :=
  [.request .running, .next, item 0 .running (.inr rfl), item 1 .pending (.inr rfl), .next,
    item 2 .running (.inr rfl), item 1 .running (.inr rfl)]

end Sample

namespace Conductor

open Conducting (result)

/-- Two items may be active at once, and three are: one of the first two was pending when the third
was offered. And a task that is to be reached twice is staged when it has been reached once, but
none of its items is offered. -/
theorem limit_exceeded_after_pending_and_join_withheld :
    (∃ spec c, Spec.make .workflow (Sample.batches (.int 2)) = .ok spec ∧
      make spec .null .null = .ok c ∧
      ((c.afterAll Sample.pending).state.staged? "batch" 0).map (·.items) =
        some (some [.running, .running, .running])) ∧
    ∃ spec c, Spec.make .workflow (Sample.joined (.int 2)) = .ok spec ∧
      make spec .null .null = .ok c ∧
      let d := c.afterAll Sample.reaching
      d.state.status = .running ∧ d.rendersAll = true ∧
        (d.state.staged? "batch" 0).map (·.completed) = some false ∧
        (result nextTasks d).1.toOption.map (itemsOffered "batch" 0) = some [] := by
  constructor
  · obtain ⟨spec, c, specified, made, exceeded⟩ := exists_make_of_any (p := fun _ c =>
      ((c.afterAll Sample.pending).state.staged? "batch" 0).map (·.items) ==
        some (some [.running, .running, .running]))
      (show (Spec.make .workflow (Sample.batches (.int 2))).toOption.any _ = true by decide +kernel)
    exact ⟨spec, c, specified, made, beq_iff_eq.mp exceeded⟩
  · obtain ⟨spec, c, specified, made, withheld⟩ := exists_make_of_any (p := fun _ c =>
      let d := c.afterAll Sample.reaching
      d.state.status == .running && (d.rendersAll &&
        ((d.state.staged? "batch" 0).map (·.completed) == some false &&
          (result nextTasks d).1.toOption.map (itemsOffered "batch" 0) == some [])))
      (show (Spec.make .workflow (Sample.joined (.int 2))).toOption.any _ = true by decide +kernel)
    simp only [Bool.and_eq_true, beq_iff_eq] at withheld
    exact ⟨spec, c, specified, made, withheld⟩

end Conductor

end Orchestration
