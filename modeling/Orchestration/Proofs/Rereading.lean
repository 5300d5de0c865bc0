import Orchestration.Proofs.Copying
import Orchestration.Proofs.Grounding
import Orchestration.State.Persistence

/-!
A state that has been written and read.

Everything is there again, each thing that was shared is now held once for each of its holders, and
retry policies are copies.
-/

namespace Orchestration

theorem Value.field?_fields (named : List (String × Value)) (key : String) :
    (Value.fields named).field? key = named.lookup key := by
  simp only [Value.fields, Value.field?, Entries.getStr?, Entries.get?]
  induction named with
  | nil => rfl
  | cons pair rest ih =>
    obtain ⟨name, v⟩ := pair
    simp only [List.map_cons, List.find?_cons, List.lookup_cons, Value.str_beq]
    by_cases same : name = key
    · subst same
      simp
    · have here : (name == key) = false := beq_false_of_ne same
      have there : (key == name) = false := beq_false_of_ne (Ne.symm same)
      simp only [here, there]
      exact ih

theorem Value.field_fields (named : List (String × Value)) (key : String) :
    (Value.fields named).field key = (named.lookup key).getD .null := by
  rw [Value.field, Value.field?_fields]

namespace Status

theorem readStatus_toValue {s : Status} (word : s.IsWord) : State.readStatus s.toValue = s := by
  cases s with
  | unknown word => rcases word with impossible | impossible <;> cases impossible
  | _ => rfl

end Status

namespace State

theorem readIndices_indicesValue (indices : List Nat) :
    readIndices (indicesValue indices) = indices := by
  simp [readIndices, indicesValue, readList, readNat, Value.asInt?, Function.comp_def]

theorem readLinks_linksValue (links : List (String × Nat)) :
    readLinks (linksValue links) = links := by
  simp [readLinks, linksValue, Value.fields, readEntries, readNat, Value.asInt?, Value.text,
    Function.comp_def]

end State

/-! ### Fields that may be left out -/

theorem lookup_single {α : Type} (name other : String) (v : α) :
    [(name, v)].lookup other = if other = name then some v else none := by
  rw [List.lookup_cons, List.lookup_nil]
  by_cases same : other = name
  · rw [beq_of_eq same, if_pos same]
  · rw [beq_false_of_ne same, if_neg same]

theorem lookup_flag (name other : String) (holds : Bool) :
    (State.flag name holds).lookup other = if other = name ∧
      holds = true then some (.bool true) else none := by
  unfold State.flag
  cases holds with
  | false => simp
  | true => simp [lookup_single]

theorem lookup_optional {α : Type} (name other : String) (given : Option α) (f : α → Value) :
    ((given.map fun a => (name, f a)).toList).lookup other = if other = name then given.map f
      else none := by
  cases given with
  | none => simp
  | some a => simp [lookup_single]

theorem lookup_unless (left : Prop) [Decidable left] (name other : String) (v : Value) :
    (if left then [] else [(name, v)]).lookup other =
      if left then none else if other = name then some v else none := by
  split
  · rfl
  · exact lookup_single name other v

theorem truthy_flag (holds : Bool) :
    ((if holds = true then some (Value.bool true) else none).getD .null).truthy = holds := by
  cases holds <;> rfl

theorem readLinks_out (out : List (String × Nat)) :
    State.readLinks ((if out = [] then none else some (State.linksValue out)).getD .null) =
      out := by
  cases out with
  | nil => rfl
  | cons link rest => exact State.readLinks_linksValue (link :: rest)

theorem readStatus_optional {status : Status} (word : status.IsWord) :
    State.readStatus ((if status = .missing then none else some status.toValue).getD .null) =
      status := by
  by_cases missing : status = .missing
  · rw [missing]
    rfl
  · rw [if_neg missing]
    exact Status.readStatus_toValue word

theorem readEntries_next (next : List (String × Bool)) :
    (State.readEntries (.fields (next.map fun link => (link.1, .bool link.2)))).map
      (fun link => (link.1.text, link.2.truthy)) = next := by
  simp [State.readEntries, Value.fields, Value.text, Value.truthy, Function.comp_def]

theorem text_str (s : String) : (Value.str s).text = s := rfl

theorem truthy_bool (b : Bool) : (Value.bool b).truthy = b := rfl

theorem readNat_int (n : Nat) : State.readNat (.int n) = n := by
  simp [State.readNat, Value.asInt?]

theorem readItems {items : List Status} (words : ∀ status ∈ items, status.IsWord) :
    (State.readList (.list (items.map State.itemValue))).map
      (fun item => State.readStatus (item.field "status")) = items := by
  simp only [State.readList, List.map_map]
  refine (List.map_congr_left fun status mem => ?_).trans (List.map_id items)
  simp only [Function.comp, State.itemValue, Value.field_fields, lookup_single, if_true,
    Option.getD_some, id]
  exact Status.readStatus_toValue (words status mem)

namespace Entry

/-- An entry as it is read: what it holds is held by nothing else. -/
def reread (e : Entry) : StateM Nat Entry := do
  let contexts ← State.readShared e.contexts.value
  let prev ← State.readShared e.prev.value
  let retry ← State.readRetry (e.retry.map (·.value))
  pure { e with contexts := contexts, prev := prev, retry := retry }

theorem readEntry_toValue {e : Entry} (word : e.status.IsWord) :
    State.readEntry e.toValue = e.reread := by
  have optional : ∀ key, e.toValue.field? key = _ := fun key => Value.field?_fields _ key
  have fields : ∀ key, e.toValue.field key = _ := fun key => Value.field_fields _ key
  simp only [State.readEntry, reread, optional, fields, List.lookup_append]
  simp [List.lookup_cons, Value.field_fields, lookup_flag, lookup_optional, lookup_unless,
    State.readIndices_indicesValue, State.readLinks_linksValue, readNat_int,
    readEntries_next, readLinks_out, readStatus_optional word, truthy_flag, text_str]

end Entry

namespace Staged

def reread (t : Staged) : StateM Nat Staged := do
  let contexts ← State.readShared t.contexts.value
  let prev ← State.readShared t.prev.value
  let retry ← State.readRetry (t.retry.map (·.value))
  pure { t with contexts := contexts, prev := prev, retry := retry }

theorem readStaged_toValue {t : Staged}
    (words : ∀ items ∈ t.items, ∀ status ∈ items, status.IsWord) :
    State.readStaged t.toValue = t.reread := by
  have optional : ∀ key, t.toValue.field? key = _ := fun key => Value.field?_fields _ key
  have fields : ∀ key, t.toValue.field key = _ := fun key => Value.field_fields _ key
  have items : (t.items.map fun items => Value.list (items.map State.itemValue)).map (fun items =>
      (State.readList items).map fun item => State.readStatus (item.field "status")) = t.items := by
    cases given : t.items with
    | none => rfl
    | some items => exact congrArg some (readItems (words items given))
  simp only [State.readStaged, reread, optional, fields, List.lookup_append]
  simp [List.lookup_cons, Value.field_fields, lookup_flag, lookup_optional,
    State.readIndices_indicesValue, State.readLinks_linksValue, readNat_int, truthy_flag, text_str,
    truthy_bool, -Option.map_map, items]

end Staged

/-! ### Copies of what is written -/

theorem Value.replain_fields {named : List (String × Value)} (distinct : (named.map (·.1)).Nodup) :
    (Value.fields named).replain = .fields (named.map fun link => (link.1, link.2.replain)) := by
  have entries : Value.replainEntries (named.map fun link => (Value.str link.1, link.2)) =
      named.map fun link => (Value.str link.1, link.2.replain) := by
    induction named with
    | nil => rfl
    | cons link rest ih =>
      rw [List.map_cons, Value.replainEntries, ih (List.nodup_cons.mp distinct).2]
      rfl
  have keys : Entries.TextKeys (named.map fun link => (Value.str link.1, link.2.replain)) :=
    ⟨named.map (·.1), distinct, by simp [Entries.keys, Function.comp_def]⟩
  change Value.replain (.map _) = _
  rw [Value.replain, entries, Entries.ofList_of_textKeys keys]
  simp [Value.fields, Function.comp_def]

theorem State.tidy_indicesValue (indices : List Nat) : (State.indicesValue indices).Tidy := by
  refine Value.tidyItems_iff.mpr fun v mem => ?_
  obtain ⟨i, -, rfl⟩ := List.mem_map.mp mem
  trivial

theorem State.tidy_linksValue {links : List (String × Nat)} (distinct : (links.map (·.1)).Nodup) :
    (State.linksValue links).Tidy := by
  refine Value.tidy_fields (by simpa [Function.comp_def] using distinct) fun v mem => ?_
  obtain ⟨_, inLinks, rfl⟩ := List.mem_map.mp mem
  obtain ⟨link, -, rfl⟩ := List.mem_map.mp inLinks
  trivial

theorem Status.tidy_toValue (s : Status) : s.toValue.Tidy := by
  unfold Status.toValue
  split <;> trivial

namespace Entry

def copied (e : Entry) : Entry :=
  { e with retry := e.retry.map fun r => { r with value := r.value.replain } }

theorem tidy_next {next : List (String × Bool)} (distinct : (next.map (·.1)).Nodup) :
    (Value.fields (next.map fun (name, taken) => (name, .bool taken))).Tidy := by
  refine Value.tidy_fields (by simpa [Function.comp_def] using distinct) fun v mem => ?_
  obtain ⟨_, inNext, rfl⟩ := List.mem_map.mp mem
  obtain ⟨link, -, rfl⟩ := List.mem_map.mp inNext
  trivial

theorem tidy_contexts (indices : List Nat) {out : List (String × Nat)}
    (distinct : (out.map (·.1)).Nodup) : (Value.fields ([("in", State.indicesValue indices)] ++
      if out.isEmpty then [] else [("out", State.linksValue out)])).Tidy := by
  have inside := State.tidy_indicesValue indices
  have outside := State.tidy_linksValue distinct
  split
  · exact Value.tidy_fields (by simp) (by simpa using inside)
  · exact Value.tidy_fields (by simp) (by simp [inside, outside])

theorem replain_toValue {e : Entry} (prev : (e.prev.value.map (·.1)).Nodup)
    (next : (e.next.map (·.1)).Nodup) (out : (e.out.map (·.1)).Nodup) :
    e.toValue.replain = e.copied.toValue := by
  have contextsTidy := Value.replain_of_tidy (tidy_contexts e.contexts.value out)
  have prevTidy := Value.replain_of_tidy (State.tidy_linksValue prev)
  have nextTidy := Value.replain_of_tidy (tidy_next next)
  have statusTidy := Value.replain_of_tidy e.status.tidy_toValue
  unfold toValue copied
  rw [Value.replain_fields]
  · simp only [List.map_append, List.map_cons, List.map_nil, contextsTidy, prevTidy, nextTidy]
    cases e.retry <;> cases e.terminal <;> by_cases missing : e.status = .missing <;>
      simp [missing, State.flag, Value.replain, statusTidy]
  · cases e.retry <;> cases e.terminal <;> by_cases missing : e.status = .missing <;>
      simp [missing, State.flag]

end Entry

namespace Staged

def copied (t : Staged) : Staged :=
  { t with retry := t.retry.map fun r => { r with value := r.value.replain } }

theorem tidy_items (items : List Status) : (Value.list (items.map State.itemValue)).Tidy := by
  refine Value.tidyItems_iff.mpr fun v mem => ?_
  obtain ⟨item, -, rfl⟩ := List.mem_map.mp mem
  exact Value.tidy_fields (by simp) (by simpa using item.tidy_toValue)

theorem replain_toValue {t : Staged} (prev : (t.prev.value.map (·.1)).Nodup) :
    t.toValue.replain = t.copied.toValue := by
  have contextsTidy : (Value.fields [("in", State.indicesValue t.contexts.value)]).replain = _ :=
    Value.replain_of_tidy
      (Value.tidy_fields (by simp) (by simpa using State.tidy_indicesValue t.contexts.value))
  have prevTidy := Value.replain_of_tidy (State.tidy_linksValue prev)
  have itemsTidy := fun items => Value.replainItems_of_tidy (tidy_items items)
  unfold toValue copied
  rw [Value.replain_fields]
  · simp only [List.map_append, List.map_cons, List.map_nil, contextsTidy, prevTidy]
    cases t.retry <;> cases t.items <;> cases t.runOnFail <;> cases t.completed <;>
      simp [State.flag, Value.replain, itemsTidy]
  · cases t.retry <;> cases t.items <;> cases t.runOnFail <;> cases t.completed <;>
      simp [State.flag]

end Staged

/-! ### Marks of their own -/

namespace Entry

def holds (e : Entry) : Nat := 2 + e.retry.toList.length

/-- An entry that holds its things under marks from `mark` on. -/
def heldFrom (e : Entry) (mark : Nat) : Entry :=
  { e with
    contexts := ⟨mark, e.contexts.value⟩, prev := ⟨mark + 1, e.prev.value⟩,
    retry := e.retry.map fun r => ⟨mark + 2, r.value⟩ }

theorem run_reread (e : Entry) (mark : Nat) :
    e.reread mark = (e.heldFrom mark, mark + e.holds) := by
  unfold reread heldFrom holds
  cases e.retry <;> rfl

end Entry

namespace Staged

def holds (t : Staged) : Nat := 2 + t.retry.toList.length

def heldFrom (t : Staged) (mark : Nat) : Staged :=
  { t with
    contexts := ⟨mark, t.contexts.value⟩, prev := ⟨mark + 1, t.prev.value⟩,
    retry := t.retry.map fun r => ⟨mark + 2, r.value⟩ }

theorem run_reread (t : Staged) (mark : Nat) :
    t.reread mark = (t.heldFrom mark, mark + t.holds) := by
  unfold reread heldFrom holds
  cases t.retry <;> rfl

end Staged

section

variable {α : Type} (heldFrom : α → Nat → α) (holds : α → Nat)

def numberFrom : Nat → List α → List α
  | _, [] => []
  | mark, a :: rest => heldFrom a mark :: numberFrom (mark + holds a) rest

def marksOf : List α → Nat
  | [] => 0
  | a :: rest => holds a + marksOf rest

variable {heldFrom holds}

theorem run_mapM_numberFrom {read : α → StateM Nat α}
    (reads : ∀ a mark, read a mark = (heldFrom a mark, mark + holds a))
    (list : List α) (mark : Nat) :
    list.mapM read mark = (numberFrom heldFrom holds mark list, mark + marksOf holds list) := by
  induction list generalizing mark with
  | nil => rfl
  | cons a rest ih =>
    rw [List.mapM_cons]
    change (match read a mark with
      | (b, next) => match rest.mapM read next with
        | (bs, last) => (b :: bs, last)) = _
    rw [reads, numberFrom]
    dsimp only
    rw [ih, marksOf, Nat.add_assoc]

theorem mem_numberFrom {list : List α} {first : Nat} {b : α}
    (mem : b ∈ numberFrom heldFrom holds first list) :
    ∃ a ∈ list, ∃ mark, first ≤ mark ∧ mark + holds a ≤ first + marksOf holds list ∧
      b = heldFrom a mark := by
  induction list generalizing first with
  | nil => cases mem
  | cons a rest ih =>
    rw [marksOf]
    rcases List.mem_cons.mp mem with rfl | behind
    · exact ⟨a, List.mem_cons_self .., first, Nat.le_refl _, by omega, rfl⟩
    · obtain ⟨b, inRest, mark, lower, upper, same⟩ := ih behind
      exact ⟨b, List.mem_cons_of_mem _ inRest, mark, by omega, by omega, same⟩

theorem map_numberFrom {β : Type} {f : α → β} (kept : ∀ a mark, f (heldFrom a mark) = f a)
    (list : List α) (first : Nat) : (numberFrom heldFrom holds first list).map f = list.map f := by
  induction list generalizing first with
  | nil => rfl
  | cons a rest ih => rw [numberFrom, List.map_cons, List.map_cons, kept, ih]

end

/-! ### Whole states -/

namespace State

/-- The entries as they are written, with copies of their retry policies if they can be copied. -/
def writtenSequence (s : State) : List Entry :=
  if s.sequenceValue.isPlain then s.sequence.map Entry.copied else s.sequence

def writtenStaged (s : State) : List Staged :=
  if s.stagedValue.isPlain then s.staged.map Staged.copied else s.staged

def writtenContexts (s : State) : List Value :=
  if s.contextsValue.isPlain then Value.replainItems s.contexts.toValues else s.contexts.toValues

def reread (s : State) : State :=
  let staging := 1 + marksOf Entry.holds s.writtenSequence
  { s with
    contexts := .ofValues s.writtenContexts
    sequence := numberFrom Entry.heldFrom Entry.holds 1 s.writtenSequence
    staged := numberFrom Staged.heldFrom Staged.holds staging s.writtenStaged
    nextMark := staging + marksOf Staged.holds s.writtenStaged }

theorem copy_contextsValue (s : State) : s.contextsValue.copy = .list s.writtenContexts := by
  unfold writtenContexts contextsValue Value.copy
  split <;> rfl

theorem copy_sequenceValue {s : State} (sound : s.Sound) :
    s.sequenceValue.copy = .list (s.writtenSequence.map Entry.toValue) := by
  unfold writtenSequence Value.copy
  split
  case isFalse => rfl
  case isTrue =>
    rw [sequenceValue, Value.replain, Value.replainItems_eq_map, List.map_map, List.map_map]
    refine congrArg Value.list (List.map_congr_left fun e mem => ?_)
    have here := sound.entries e mem
    exact Entry.replain_toValue here.held.named here.nextNamed here.outNamed

theorem copy_stagedValue {s : State} (sound : s.Sound) :
    s.stagedValue.copy = .list (s.writtenStaged.map Staged.toValue) := by
  unfold writtenStaged Value.copy
  split
  case isFalse => rfl
  case isTrue =>
    rw [stagedValue, Value.replain, Value.replainItems_eq_map, List.map_map, List.map_map]
    refine congrArg Value.list (List.map_congr_left fun t mem => ?_)
    exact Staged.replain_toValue (sound.staged t mem).held.named

theorem tidy_routesValue (s : State) : s.routesValue.Tidy := by
  refine Value.tidyItems_iff.mpr fun v mem => ?_
  obtain ⟨route, -, rfl⟩ := List.mem_map.mp mem
  refine Value.tidyItems_iff.mpr fun v inRoute => ?_
  obtain ⟨name, -, rfl⟩ := List.mem_map.mp inRoute
  trivial

theorem tidy_rerunsValue (s : State) : s.rerunsValue.Tidy := by
  refine Value.tidyItems_iff.mpr fun v mem => ?_
  obtain ⟨indices, -, rfl⟩ := List.mem_map.mp mem
  exact tidy_indicesValue indices

theorem copy_serialize {s : State} (sound : s.Sound) : s.serialize.copy = s.serialize := by
  have tasks : s.tasksValue.Tidy := tidy_linksValue sound.named
  have copies : (s.contextsValue.copy.isPlain = true → s.contextsValue.copy.Tidy) ∧
      (s.sequenceValue.copy.isPlain = true → s.sequenceValue.copy.Tidy) ∧
      (s.stagedValue.copy.isPlain = true → s.stagedValue.copy.Tidy) :=
    ⟨Value.tidy_copy_of_isPlain, Value.tidy_copy_of_isPlain, Value.tidy_copy_of_isPlain⟩
  unfold serialize
  split
  · exact Value.copy_fields (by simp)
      (by simpa [s.tidy_routesValue, s.status.tidy_toValue, tasks] using copies)
  · exact Value.copy_fields (by simp)
      (by simpa [s.tidy_routesValue, s.status.tidy_toValue, tasks, s.tidy_rerunsValue] using copies)

theorem holds_of_mem_writtenSequence {s : State} {p : Entry → Prop}
    (entries : ∀ e ∈ s.sequence, p e) (copied : ∀ e, p e → p e.copied) :
    ∀ e ∈ s.writtenSequence, p e := by
  unfold writtenSequence
  split
  · intro e mem
    obtain ⟨original, inSequence, rfl⟩ := List.mem_map.mp mem
    exact copied original (entries original inSequence)
  · exact entries

theorem holds_of_mem_writtenStaged {s : State} {p : Staged → Prop} (staged : ∀ t ∈ s.staged, p t)
    (copied : ∀ t, p t → p t.copied) : ∀ t ∈ s.writtenStaged, p t := by
  unfold writtenStaged
  split
  · intro t mem
    obtain ⟨original, inStaged, rfl⟩ := List.mem_map.mp mem
    exact copied original (staged original inStaged)
  · exact staged

theorem mapM_readEntry {list : List Entry} (words : ∀ e ∈ list, e.status.IsWord) :
    (list.map Entry.toValue).mapM readEntry = list.mapM Entry.reread := by
  induction list with
  | nil => rfl
  | cons e rest ih =>
    rw [List.map_cons, List.mapM_cons, List.mapM_cons,
      Entry.readEntry_toValue (words e (List.mem_cons_self ..)),
      ih fun e inRest => words e (List.mem_cons_of_mem _ inRest)]

theorem mapM_readStaged {list : List Staged}
    (words : ∀ t ∈ list, ∀ items ∈ t.items, ∀ status ∈ items, status.IsWord) :
    (list.map Staged.toValue).mapM readStaged = list.mapM Staged.reread := by
  induction list with
  | nil => rfl
  | cons t rest ih =>
    rw [List.map_cons, List.mapM_cons, List.mapM_cons,
      Staged.readStaged_toValue (words t (List.mem_cons_self ..)),
      ih fun t inRest => words t (List.mem_cons_of_mem _ inRest)]

theorem readRoutes_routesValue (s : State) :
    (readList s.routesValue).map (fun r => (readList r).map Value.text) = s.routes := by
  simp [routesValue, readList, Function.comp_def, Value.text]

theorem readReruns_rerunsValue (s : State) :
    (readList ((if s.reruns = [] then none else some s.rerunsValue).getD .null)).map
      readIndices = s.reruns := by
  by_cases none : s.reruns = []
  · simp [none, readList]
  · simp [none, rerunsValue, readList, readIndices_indicesValue, Function.comp_def]

theorem run_rereadAll (sequence : List Entry) (staged : List Staged) (mark : Nat) :
    StateT.run (m := Id) (do
      let sequence ← sequence.mapM Entry.reread
      let staged ← staged.mapM Staged.reread
      return (sequence, staged)) mark =
    let staging := mark + marksOf Entry.holds sequence
    ((numberFrom Entry.heldFrom Entry.holds mark sequence,
      numberFrom Staged.heldFrom Staged.holds staging staged),
      staging + marksOf Staged.holds staged) := by
  change (match sequence.mapM Entry.reread mark with
    | (sequence, next) => match staged.mapM Staged.reread next with
      | (staged, last) => ((sequence, staged), last)) = _
  rw [run_mapM_numberFrom Entry.run_reread]
  change (match staged.mapM Staged.reread (mark + marksOf Entry.holds sequence) with
    | (staged, last) => ((_, staged), last)) = _
  rw [run_mapM_numberFrom Staged.run_reread]

/-- Reading what was written gives the state with marks of their own for all that it holds. -/
theorem deserialize_serialize {s : State} (sound : s.Sound) :
    deserialize s.serialize = s.reread := by
  have words := holds_of_mem_writtenSequence (fun e mem => (sound.entries e mem).status)
    (fun _ word => word)
  have itemWords := holds_of_mem_writtenStaged (fun t mem => (sound.staged t mem).items)
    (fun _ word => word)
  have optional : ∀ key, s.serialize.field? key = _ := fun key => Value.field?_fields _ key
  have fields : ∀ key, s.serialize.field key = _ := fun key => Value.field_fields _ key
  have status :
      readStatus ((s.serialize.field? "status").getD (.str Status.unset.text)) = s.status := by
    rw [optional]
    simp [List.lookup_cons, Status.readStatus_toValue sound.status]
  have sequence :
      readList (s.serialize.field "sequence") = s.writtenSequence.map Entry.toValue := by
    rw [fields]
    simp [List.lookup_cons, copy_sequenceValue sound, readList]
  have staged : readList (s.serialize.field "staged") = s.writtenStaged.map Staged.toValue := by
    rw [fields]
    simp [List.lookup_cons, copy_stagedValue sound, readList]
  have contexts : readList (s.serialize.field "contexts") = s.writtenContexts := by
    rw [fields]
    simp [copy_contextsValue, readList]
  have routes : (readList (s.serialize.field "routes")).map
      (fun r => (readList r).map Value.text) = s.routes := by
    rw [fields]
    simpa [List.lookup_cons] using s.readRoutes_routesValue
  have tasks : readLinks (s.serialize.field "tasks") = s.tasks := by
    rw [fields]
    simpa [List.lookup_cons, tasksValue] using readLinks_linksValue s.tasks
  have reruns : (readList (s.serialize.field "reruns")).map readIndices = s.reruns := by
    rw [fields]
    simpa [List.lookup_cons, lookup_unless] using s.readReruns_rerunsValue
  unfold deserialize
  rw [copy_serialize sound]
  dsimp only
  rw [status, sequence, staged, contexts, routes, tasks, reruns, mapM_readEntry words,
    mapM_readStaged itemWords]
  rw [run_rereadAll]
  rfl

/-! ### What is read is grounded -/

theorem length_writtenContexts (s : State) :
    s.writtenContexts.length = s.contexts.items.length := by
  have values : s.contexts.toValues.length = s.contexts.items.length := Node.length_toValues _
  unfold writtenContexts
  split
  · rw [Value.replainItems_eq_map, List.length_map, values]
  · exact values

theorem places_reread (s : State) : s.reread.places = s.places := by
  have written : s.writtenSequence.map Entry.place = s.sequence.map Entry.place := by
    unfold writtenSequence
    split
    · rw [List.map_map]
      rfl
    · rfl
  exact (map_numberFrom (by intro _ _; rfl) s.writtenSequence 1).trans written

theorem Held.reread {s t : State} {route mark : Nat} {contexts : Shared (List Nat)}
    {prev : Shared (List (String × Nat))} {retry : Option (Shared Value)}
    (held : s.Held route contexts prev retry)
    (lengths : t.contexts.items.length = s.contexts.items.length) (routes : t.routes = s.routes)
    (places : t.places = s.places) (positive : 0 < mark)
    (bounded : mark + (2 + retry.toList.length) ≤ t.nextMark) :
    t.Held route ⟨mark, contexts.value⟩ ⟨mark + 1, prev.value⟩
      (retry.map fun r => ⟨mark + 2, r.value⟩) where
  route := routes ▸ held.route
  reads := lengths ▸ held.reads
  links := places ▸ held.links
  named := held.named
  contextsMark := ⟨positive, by dsimp only; omega⟩
  prevMark := ⟨by dsimp only; omega, by dsimp only; omega⟩
  retryMark := by
    cases retry with
    | none => simp
    | some r =>
      intro shared mem
      cases mem
      simp only [Option.toList_some, List.length_singleton] at bounded
      exact ⟨by dsimp only; omega, by dsimp only; omega⟩

theorem Held.copied {s : State} {route : Nat} {contexts : Shared (List Nat)}
    {prev : Shared (List (String × Nat))} {retry : Option (Shared Value)}
    (held : s.Held route contexts prev retry) :
    s.Held route contexts prev (retry.map fun r => { r with value := r.value.replain }) :=
  { held with retryMark := by simpa using held.retryMark }

theorem SoundEntry.copied {s : State} {e : Entry} (sound : s.SoundEntry e) :
    s.SoundEntry e.copied :=
  { sound with held := sound.held.copied }

theorem SoundStaged.copied {s : State} {t : Staged} (sound : s.SoundStaged t) :
    s.SoundStaged t.copied :=
  { sound with held := sound.held.copied }

theorem grounded_reread {s : State} (grounded : s.Grounded) : s.reread.Grounded := by
  have lengths : s.reread.contexts.items.length = s.contexts.items.length :=
    (Contexts.length_ofValues _).trans s.length_writtenContexts
  have places := s.places_reread
  have staging : 1 ≤ 1 + marksOf Entry.holds s.writtenSequence := Nat.le_add_right ..
  have entries := holds_of_mem_writtenSequence grounded.entries fun e => SoundEntry.copied
  have staged := holds_of_mem_writtenStaged grounded.staged fun t => SoundStaged.copied
  refine
    { indexed := by rw [places]; exact grounded.indexed
      named := grounded.named
      entries := fun e mem => ?_
      staged := fun t mem => ?_
      branching := grounded.branching
      marked := Contexts.marked_ofValues _
      positive := Nat.lt_of_lt_of_le Nat.one_pos (Nat.le_trans staging (Nat.le_add_right ..))
      status := grounded.status }
  · obtain ⟨original, written, mark, first, last, rfl⟩ := mem_numberFrom mem
    have sound := entries original written
    have bounded : mark + original.holds ≤ s.reread.nextMark :=
      Nat.le_trans last (Nat.le_add_right ..)
    exact
      { held := sound.held.reread lengths rfl places first bounded
        out := lengths ▸ sound.out
        outNamed := sound.outNamed
        nextNamed := sound.nextNamed
        status := sound.status }
  · obtain ⟨original, written, mark, first, last, rfl⟩ := mem_numberFrom mem
    have sound := staged original written
    exact ⟨sound.held.reread lengths rfl places (Nat.le_trans staging first) last, sound.items⟩

end State

end Orchestration
