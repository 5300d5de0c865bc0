import Mathlib.Data.List.Perm.Subperm
import Mathlib.Logic.Relation
import Orchestration.Proofs.Composition

/-!
Walks through a flow.

A flow is walked through with a worklist. A walk comes to an end, because what waits after so many
rounds lies behind as many different tasks. A walk that has come to its end has been everywhere:
nothing waits any more of what was found.
-/

namespace Orchestration

/-! ### Worklists -/

namespace Worklist

variable {σ α : Type} {visit : Visit σ α}

section Ends

variable {k : Nat} (valid : σ → Prop) (fits : Nat → σ → α → Prop)

theorem round_ends
    (each : ∀ k s a, valid s → fits k s a → ∃ s' more, visit s a = .ok (s', more) ∧ valid s' ∧
      (∀ b ∈ more, fits (k + 1) s' b) ∧ ∀ j b, fits j s b → fits j s' b)
    {waiting next : List α} {s : σ} (start : valid s) (waits : ∀ a ∈ waiting, fits k s a)
    (later : ∀ b ∈ next, fits (k + 1) s b) :
    ∃ reached, waiting.foldlM (fun reached item => do
        let found ← visit reached.1 item
        .ok (found.1, reached.2 ++ found.2)) (s, next) = Except.ok reached ∧
      valid reached.1 ∧ ∀ b ∈ reached.2, fits (k + 1) reached.1 b := by
  induction waiting generalizing s next with
  | nil => exact ⟨(s, next), rfl, start, later⟩
  | cons a rest ih =>
    obtain ⟨s', more, visited, kept, new, still⟩ :=
      each k s a start (waits a (List.mem_cons_self ..))
    have others : ∀ b ∈ rest, fits k s' b :=
      fun b mem => still _ _ (waits b (List.mem_cons_of_mem _ mem))
    have found : ∀ b ∈ next ++ more, fits (k + 1) s' b := by
      intro b mem
      rcases List.mem_append.mp mem with old | isNew
      · exact still _ _ (later b old)
      · exact new b isNew
    obtain ⟨reached, done, holds⟩ := ih kept others found
    refine ⟨reached, ?_, holds⟩
    rw [List.foldlM_cons]
    exact bind_eq_ok.mpr ⟨_, bind_eq_ok.mpr ⟨_, visited, rfl⟩, done⟩

/-- The work comes to an end, if no item can be left after so many rounds. -/
theorem run_ends (bound : Nat) {fuel : Nat}
    (each : ∀ k s a, valid s → fits k s a → ∃ s' more, visit s a = .ok (s', more) ∧ valid s' ∧
      (∀ b ∈ more, fits (k + 1) s' b) ∧ ∀ j b, fits j s b → fits j s' b)
    (bounded : ∀ k s a, valid s → fits k s a → k < bound) {s : σ} {waiting : List α}
    (start : valid s) (waits : ∀ a ∈ waiting, fits k s a) (enough : bound ≤ fuel + k) :
    ∃ last, run visit fuel s waiting = .ok last := by
  induction fuel generalizing k s waiting with
  | zero =>
    cases waiting with
    | nil => exact ⟨s, rfl⟩
    | cons a rest =>
      have below := bounded k s a start (waits a (List.mem_cons_self ..))
      omega
  | succ fuel ih =>
    cases waiting with
    | nil => exact ⟨s, rfl⟩
    | cons a rest =>
      obtain ⟨reached, done, kept, found⟩ :=
        round_ends valid fits each start waits (List.forall_mem_nil _)
      obtain ⟨last, ended⟩ := ih kept found (by omega)
      exact ⟨last, bind_eq_ok.mpr ⟨reached, done, ended⟩⟩

end Ends

end Worklist

/-! ### Links -/

namespace Step

theorem mem_links {step : Step} {link : Link} :
    link ∈ step.links ↔ ∃ branch i, (branch, i) ∈ step.branches.zipIdx ∧
      link.task ∈ branch.targets ∧ link = ⟨link.task, branch.condition, i⟩ := by
  simp only [links, Link.sort, List.mem_mergeSort, linksInOrder, List.mem_flatMap,
    Prod.exists, List.mem_map]
  constructor
  · rintro ⟨branch, i, mem, target, isTarget, rfl⟩
    exact ⟨branch, i, mem, isTarget, rfl⟩
  · rintro ⟨branch, i, mem, isTarget, same⟩
    exact ⟨branch, i, mem, link.task, isTarget, same.symm⟩

theorem exists_link {step : Step} {name : String} :
    (∃ link ∈ step.links, link.task = name) ↔ ∃ branch ∈ step.branches, name ∈ branch.targets := by
  constructor
  · rintro ⟨link, isLink, rfl⟩
    obtain ⟨branch, i, mem, isTarget, -⟩ := mem_links.mp isLink
    exact ⟨branch, List.mem_of_getElem? (List.mem_zipIdx_iff_getElem?.mp mem), isTarget⟩
  · rintro ⟨branch, mem, isTarget⟩
    obtain ⟨i, there⟩ := List.mem_iff_getElem?.mp mem
    exact ⟨⟨name, branch.condition, i⟩,
      mem_links.mpr ⟨branch, i, List.mem_zipIdx_iff_getElem?.mpr there, isTarget, rfl⟩, rfl⟩

theorem condition_eq {step : Step} {link other : Link} (isLink : link ∈ step.links)
    (isOther : other ∈ step.links) (branch : link.branch = other.branch) :
    link.condition = other.condition := by
  obtain ⟨one, i, first, -, same⟩ := mem_links.mp isLink
  obtain ⟨two, j, second, -, same'⟩ := mem_links.mp isOther
  rw [same, same'] at branch ⊢
  cases branch
  have here := List.mem_zipIdx_iff_getElem?.mp first
  rw [List.mem_zipIdx_iff_getElem?.mp second] at here
  exact congrArg Branch.condition (Option.some.inj here).symm

theorem oddTargets_eq_nil {step : Step} (plain : step.odd = []) : step.oddTargets = [] := by
  rw [oddTargets, plain]
  rfl

theorem refuseOdd_eq_ok {step : Step} (plain : step.odd = []) (refusal : Value → Error) :
    step.refuseOdd refusal = .ok () := by
  rw [refuseOdd, oddTargets_eq_nil plain]

theorem mem_onward {step : Step} {name : String} :
    .inl name ∈ step.onward ↔ ∃ link ∈ step.links, link.task = name := by
  simp [onward]

theorem onward_eq {step : Step} (plain : step.odd = []) :
    step.onward = step.links.map fun link => .inl link.task := by
  rw [onward, oddTargets_eq_nil plain]
  exact List.append_nil _

end Step

namespace Flow

variable {flow : Flow} {name next : String}

def Goes (flow : Flow) (name : String) (link : Link) : Prop :=
  ∃ links, flow.nextTasks name = .ok links ∧ link ∈ links

def Leads (flow : Flow) (name next : String) : Prop :=
  ∃ link, flow.Goes name link ∧ link.task = next

inductive Reaches (flow : Flow) : String → Prop where
  | start {name : String} : name ∈ flow.startTasks → Reaches flow name
  | onward {name next : String} : Reaches flow name → flow.Leads name next → Reaches flow next

theorem Reaches.startTasks_ne_nil (reaches : flow.Reaches name) : flow.startTasks ≠ [] := by
  induction reaches with
  | start isStart => exact List.ne_nil_of_mem isStart
  | onward _ _ ih => exact ih

/-- Nothing leads to a task that no branch of a task has as a target. -/
theorem isEmpty_prevTasks : (flow.prevTasks name).isEmpty =
    flow.steps.all fun step => Command.isName step.name ||
    !step.branches.any (·.targets.contains name) := by
  rw [prevTasks, Link.sort, (List.mergeSort_perm ..).isEmpty_eq, Bool.eq_iff_iff, List.isEmpty_iff,
    List.flatMap_eq_nil_iff, List.all_eq_true]
  refine forall₂_congr fun step _ => ?_
  rw [List.map_eq_nil_iff, List.filter_eq_nil_iff, linksOf]
  split
  case isTrue command => simp [command]
  case isFalse command =>
    have targets : (¬∃ link ∈ step.links, link.task = name) ↔ _ := not_congr Step.exists_link
    simpa [command] using targets

/-- Every target is text. -/
def Plain (flow : Flow) : Prop := ∀ step ∈ flow.steps, step.odd = []

/-- What can be reached is there, and goes on to text only. -/
def Closed (flow : Flow) : Prop :=
  ∀ name, flow.Reaches name → ∃ step, flow.step name = .ok step ∧ step.odd = []

theorem nextTasks_eq_ok {links : List Link} :
    flow.nextTasks name = .ok links ↔ ∃ step, flow.step name = .ok step ∧ links = step.links := by
  rw [nextTasks, bind_eq_ok]
  constructor
  · rintro ⟨step, found, same⟩
    exact ⟨step, found, (Except.ok.inj same).symm⟩
  · rintro ⟨step, found, rfl⟩
    exact ⟨step, found, rfl⟩

theorem goes_iff {link : Link} :
    flow.Goes name link ↔ ∃ step, flow.step name = .ok step ∧ link ∈ step.links := by
  simp only [Goes, nextTasks_eq_ok]
  constructor
  · rintro ⟨_, ⟨step, found, rfl⟩, mem⟩
    exact ⟨step, found, mem⟩
  · rintro ⟨step, found, mem⟩
    exact ⟨_, ⟨step, found, rfl⟩, mem⟩

theorem Goes.mem_links {link : Link} {step : Step} (goes : flow.Goes name link)
    (found : flow.step name = .ok step) : link ∈ step.links := by
  obtain ⟨other, same, mem⟩ := goes_iff.mp goes
  cases Except.ok.inj (found.symm.trans same)
  exact mem

theorem Goes.notCommand {link : Link} (goes : flow.Goes name link) :
    Command.isName name = false := by
  obtain ⟨step, found, mem⟩ := goes_iff.mp goes
  by_contra command
  rw [step_of_isName found (by simpa using command)] at mem
  simp [Step.links, Step.linksInOrder, Step.ofCommand, Link.sort] at mem

theorem Goes.notRetry {link : Link} (goes : flow.Goes name link) : name ≠ Command.retry.name := by
  rintro rfl
  exact absurd goes.notCommand (by decide)

theorem has_iff : flow.has name = true ↔ ∃ step, flow.step name = .ok step := by
  unfold has Flow.step defines
  by_cases command : Command.isName name = true
  · simp [command]
  · rw [Bool.or_eq_true, if_neg command, List.any_eq_true]
    cases found : flow.steps.find? (·.name == name) with
    | none =>
      have absent := List.find?_eq_none.mp found
      simpa [command] using absent
    | some step =>
      have there := List.find?_some found
      exact ⟨fun _ => ⟨step, rfl⟩, fun _ => .inr ⟨step, List.mem_of_find?_eq_some found, there⟩⟩

theorem Closed.has (closed : flow.Closed) (reaches : flow.Reaches name) : flow.has name = true :=
  has_iff.mpr ((closed name reaches).imp fun _ found => found.1)

theorem mem_of_step {step : Step} (found : flow.step name = .ok step)
    (noCommand : Command.isName name = false) : step ∈ flow.steps ∧ step.name = name := by
  unfold Flow.step at found
  rw [noCommand, if_neg Bool.false_ne_true] at found
  split at found
  case h_1 known =>
    cases Except.ok.inj found
    exact ⟨List.mem_of_find?_eq_some known, by simpa using List.find?_some known⟩
  case h_2 => cases found

theorem Plain.odd_eq_nil (plain : flow.Plain) {step : Step} (found : flow.step name = .ok step) :
    step.odd = [] := by
  by_cases command : Command.isName name = true
  · rw [step_of_isName found command]
    rfl
  · exact plain step (mem_of_step found (by simpa using command)).1

theorem Goes.exists_step {link : Link} (goes : flow.Goes name link) :
    ∃ step ∈ flow.steps, step.name = name ∧ link ∈ step.links := by
  obtain ⟨step, found, isLink⟩ := goes_iff.mp goes
  obtain ⟨mem, same⟩ := mem_of_step found goes.notCommand
  exact ⟨step, mem, same, isLink⟩

theorem Leads.mem_names (leads : flow.Leads name next) : name ∈ flow.steps.map (·.name) := by
  obtain ⟨link, goes, -⟩ := leads
  obtain ⟨step, mem, rfl, -⟩ := goes.exists_step
  exact List.mem_map_of_mem mem

theorem length_le_steps {path : List String} (distinct : path.Nodup)
    (within : path ⊆ flow.steps.map (·.name)) : path.length ≤ flow.steps.length := by
  rw [← List.length_map (f := fun step : Step => step.name)]
  exact (distinct.subperm within).length_le

/-! ### Tasks that are not defined -/

def Aims (flow : Flow) (task : String) (i : Nat) (target : String) : Prop :=
  ∃ step branch, flow.step task = .ok step ∧ step.branches[i]? = some branch ∧
    target ∈ branch.targets

theorem leads_iff : flow.Leads name next ↔ ∃ i, flow.Aims name i next := by
  constructor
  · rintro ⟨link, goes, rfl⟩
    obtain ⟨step, found, isLink⟩ := goes_iff.mp goes
    obtain ⟨branch, i, isBranch, isTarget, -⟩ := Step.mem_links.mp isLink
    exact ⟨i, step, branch, found, List.mem_zipIdx_iff_getElem?.mp isBranch, isTarget⟩
  · rintro ⟨i, step, branch, found, isBranch, isTarget⟩
    exact ⟨⟨next, branch.condition, i⟩, goes_iff.mpr ⟨step, found, Step.mem_links.mpr
      ⟨branch, i, List.mem_zipIdx_iff_getElem?.mpr isBranch, isTarget, rfl⟩⟩, rfl⟩

theorem mem_startTasks :
    name ∈ flow.startTasks ↔ name ∈ flow.steps.map (·.name) ∧
      (flow.prevTasks name).isEmpty = true := by
  simp only [startTasks, Value.sortTexts, List.mem_mergeSort, List.mem_filter]

theorem defines_iff : flow.defines name = true ↔ name ∈ flow.steps.map (·.name) := by
  simp only [defines, List.any_eq_true, beq_iff_eq, List.mem_map]

theorem has_of_mem (known : name ∈ flow.steps.map (·.name)) : flow.has name = true :=
  Bool.or_eq_true_iff.mpr (.inr (defines_iff.mpr known))

/-- What waits after so many rounds of a walk lies behind as many tasks that have been visited, and
is none of them. -/
def Ahead (flow : Flow) (k : Nat) (visited : List String) (name : String) : Prop :=
  ∃ path : List String, path.length = k ∧ (name :: path).Nodup ∧ path ⊆ visited ∧
    ∀ before ∈ path, Relation.TransGen flow.Leads before name

theorem Ahead.start (visited : List String) (name : String) : flow.Ahead 0 visited name :=
  ⟨[], rfl, List.nodup_singleton _, List.nil_subset _, List.forall_mem_nil _⟩

theorem Ahead.mono {k : Nat} {visited later : List String} (ahead : flow.Ahead k visited name)
    (grown : visited ⊆ later) : flow.Ahead k later name := by
  obtain ⟨path, length, distinct, seen, ways⟩ := ahead
  exact ⟨path, length, distinct, List.Subset.trans seen grown, ways⟩

/-- A way that came back to where it has been would be in a cycle, and so would not have been
gone. -/
theorem Ahead.onward {k : Nat} {visited : List String} (ahead : flow.Ahead k visited name)
    (leads : flow.Leads name next)
    (new : Relation.TransGen flow.Leads next next → next ∉ name :: visited) :
    flow.Ahead (k + 1) (name :: visited) next := by
  obtain ⟨path, length, distinct, seen, ways⟩ := ahead
  have behind : ∀ before ∈ name :: path, Relation.TransGen flow.Leads before next :=
    List.forall_mem_cons.mpr ⟨.single leads,
      fun before isBefore => (ways before isBefore).tail leads⟩
  have apart : next ∉ name :: path :=
    fun back => new (behind next back) (List.cons_subset_cons name seen back)
  exact ⟨name :: path, by simp [length], List.nodup_cons.mpr ⟨apart, distinct⟩,
    List.cons_subset_cons name seen, behind⟩

theorem Ahead.lt {k : Nat} {visited : List String} (ahead : flow.Ahead k visited name) :
    k < flow.steps.length + 1 := by
  obtain ⟨path, length, distinct, -, ways⟩ := ahead
  have steps : path ⊆ flow.steps.map (·.name) := by
    intro before mem
    obtain ⟨next, leads, -⟩ := Relation.TransGen.head'_iff.mp (ways before mem)
    exact leads.mem_names
  have := length_le_steps (List.nodup_cons.mp distinct).2 steps
  omega

theorem lookAt_eq (task : String) (branch : Nat) (target : String) {visited : List String}
    (defined : ∀ known ∈ visited, flow.has known = true) :
    flow.lookAt task branch target visited =
      (if flow.has target then [] else [⟨task, branch, target⟩],
      if flow.has target && !Command.isName target &&
        !visited.contains target then [target] else []) := by
  unfold lookAt
  by_cases known : visited.contains target = true
  · have has := defined target (by simpa using known)
    rw [if_pos known, has, known]
    simp
  · rw [if_neg known, Bool.eq_false_iff.mpr known, Bool.or_false, Bool.not_false, Bool.and_true]
    cases flow.has target <;> cases Command.isName target <;> rfl

/-- A target that is neither a task nor a command, or that is no text. -/
def Lacks (flow : Flow) (u : Undefined) : Prop :=
  (flow.Aims u.task u.branch u.target ∧ flow.has u.target = false) ∨
    ∃ step v, flow.step u.task = .ok step ∧ (u.branch, v) ∈ step.odd ∧ v.text = u.target

theorem Lacks.known {u : Undefined} (lacks : flow.Lacks u) :
    flow.has u.task = true ∧ Command.isName u.task = false := by
  rcases lacks with ⟨isAim, -⟩ | ⟨step, v, found, isOdd, -⟩
  · obtain ⟨link, goes, -⟩ := leads_iff.mpr ⟨_, isAim⟩
    obtain ⟨step, found, -⟩ := goes_iff.mp goes
    exact ⟨has_iff.mpr ⟨step, found⟩, goes.notCommand⟩
  · refine ⟨has_iff.mpr ⟨step, found⟩, ?_⟩
    by_contra command
    rw [step_of_isName found (by simpa using command)] at isOdd
    cases isOdd

theorem Plain.lacks_iff (plain : flow.Plain) {u : Undefined} :
    flow.Lacks u ↔ flow.Aims u.task u.branch u.target ∧ flow.has u.target = false := by
  refine or_iff_left ?_
  rintro ⟨step, v, found, isOdd, -⟩
  rw [plain.odd_eq_nil found] at isOdd
  cases isOdd

theorem reportOdd_eq_ok {one : Nat × Value} {u : Undefined}
    (reported : reportOdd name one = .ok u) : u = ⟨name, one.1, one.2.text⟩ := by
  unfold reportOdd at reported
  split at reported
  · exact (Except.ok.inj reported).symm
  · cases reported

theorem mem_reports {odd : List (Nat × Value)} {reports : List Undefined}
    (reported : odd.mapM (reportOdd name) = .ok reports) {u : Undefined} :
    u ∈ reports ↔ u.task = name ∧ ∃ v, (u.branch, v) ∈ odd ∧ v.text = u.target := by
  constructor
  · intro among
    obtain ⟨one, isOdd, made⟩ := exists_of_mem_mapM reported u among
    cases reportOdd_eq_ok made
    exact ⟨rfl, one.2, isOdd, rfl⟩
  · rintro ⟨rfl, v, isOdd, same⟩
    obtain ⟨one, among, made⟩ := mem_of_mapM reported _ isOdd
    cases reportOdd_eq_ok made
    rwa [same] at among

/-- A visit reports the undefined targets of a task, and goes on to those targets that are tasks not
visited yet. -/
theorem seekUndefined_spec {state last : Search} {more : List String}
    (defined : ∀ known ∈ state.visited, flow.has known = true)
    (visited : flow.seekUndefined state name = .ok (last, more)) :
    flow.has name = true ∧ last.visited = name :: state.visited ∧
      (∀ u, u ∈ last.undefined ↔ u ∈ state.undefined ∨ u.task = name ∧ flow.Lacks u) ∧
      ∀ next, next ∈ more ↔ flow.Leads name next ∧ flow.has next = true ∧
        Command.isName next = false ∧ next ∉ name :: state.visited := by
  obtain ⟨step, found, visited⟩ := bind_eq_ok.mp visited
  obtain ⟨reports, reported, visited⟩ := bind_eq_ok.mp visited
  cases Except.ok.inj visited
  have has : flow.has name = true := has_iff.mpr ⟨step, found⟩
  have looks (p : List Undefined × List String → Prop) : (∃ one, (∃ pair ∈ step.branches.zipIdx,
      ∃ target ∈ pair.1.targets, flow.lookAt name pair.2 target (name :: state.visited) = one) ∧
        p one) ↔ ∃ i target, flow.Aims name i target ∧
        p (flow.lookAt name i target (name :: state.visited)) := by
    constructor
    · rintro ⟨_, ⟨⟨branch, i⟩, isBranch, target, isTarget, rfl⟩, holds⟩
      exact ⟨i, target, ⟨step, branch, found, List.mem_zipIdx_iff_getElem?.mp isBranch, isTarget⟩,
        holds⟩
    · rintro ⟨i, target, ⟨other, branch, same, isBranch, isTarget⟩, holds⟩
      cases Except.ok.inj (found.symm.trans same)
      exact ⟨_, ⟨(branch, i), List.mem_zipIdx_iff_getElem?.mpr isBranch, target, isTarget, rfl⟩,
        holds⟩
  have looked (i : Nat) (target : String) :=
    lookAt_eq name i target (List.forall_mem_cons.mpr ⟨has, defined⟩)
  have odd (u : Undefined) : (u.task = name ∧ ∃ v, (u.branch, v) ∈ step.odd ∧ v.text = u.target) ↔
      u.task = name ∧ ∃ step v, flow.step u.task = .ok step ∧ (u.branch, v) ∈ step.odd ∧
        v.text = u.target := by
    refine and_congr_right fun here => ?_
    rw [here, found]
    simp
  refine ⟨has, rfl, fun u => ?_, fun next => ?_⟩
  · simp only [List.mem_append, List.mem_flatMap, List.mem_map, mem_reports reported]
    rw [looks, odd, Lacks]
    cases u
    grind
  · simp only [List.mem_flatMap, List.mem_map, leads_iff]
    rw [looks]
    grind

theorem exists_seekUndefined (plain : flow.Plain) :
    ∃ last, Worklist.run flow.seekUndefined flow.rounds ⟨[], []⟩ flow.startTasks = .ok last := by
  refine Worklist.run_ends (fun state => ∀ known ∈ state.visited, flow.has known = true)
    (fun k state name => flow.has name = true ∧ flow.Ahead k state.visited name)
    (flow.steps.length + 1) ?_ (fun _ _ _ _ waits => waits.2.lt) (List.forall_mem_nil _)
    (fun name isStart => ⟨has_of_mem (mem_startTasks.mp isStart).1, .start [] name⟩)
    (by unfold rounds; omega)
  rintro k state name defined ⟨has, ahead⟩
  obtain ⟨step, found⟩ := has_iff.mp has
  have reported : step.odd.mapM (reportOdd name) = .ok [] := by
    rw [plain.odd_eq_nil found]
    rfl
  have visited : flow.seekUndefined state name = .ok _ :=
    bind_eq_ok.mpr ⟨step, found, bind_eq_ok.mpr ⟨[], reported, rfl⟩⟩
  obtain ⟨-, -, -, onward⟩ := seekUndefined_spec defined visited
  refine ⟨_, _, visited, List.forall_mem_cons.mpr ⟨has, defined⟩, fun next waits => ?_,
    fun j other waits => ?_⟩
  · obtain ⟨leads, isDefined, -, new⟩ := (onward next).mp waits
    exact ⟨isDefined, ahead.onward leads fun _ => new⟩
  · exact ⟨waits.1, waits.2.mono (List.subset_cons_self ..)⟩

/-- What is known of a search for undefined tasks: what has been visited can be reached, what it
leads to has been visited or waits, and its undefined targets have been reported. -/
structure Searched (flow : Flow) (state : Search) (waiting : List String) : Prop where
  starts : ∀ name ∈ flow.startTasks, name ∈ state.visited ∨ name ∈ waiting
  reached : ∀ name, name ∈ state.visited ∨ name ∈ waiting → flow.Reaches name
  defined : ∀ name ∈ state.visited, flow.has name = true
  onward : ∀ name ∈ state.visited, ∀ next, flow.Leads name next → flow.has next = true →
    Command.isName next = false → next ∈ state.visited ∨ next ∈ waiting
  reported : ∀ u, u ∈ state.undefined ↔ u.task ∈ state.visited ∧ flow.Lacks u

theorem Searched.visit {state last : Search} {rest more : List String}
    (searched : flow.Searched state (name :: rest))
    (visited : flow.seekUndefined state name = .ok (last, more)) :
    flow.Searched last (rest ++ more) := by
  obtain ⟨has, seen, reports, onward⟩ := seekUndefined_spec searched.defined visited
  have here : flow.Reaches name := searched.reached name (.inr (List.mem_cons_self ..))
  have ahead (next : String) (isNew : next ∈ more) : flow.Reaches next :=
    .onward here ((onward next).mp isNew).1
  constructor
  case starts => grind [searched.starts]
  case reached => grind [searched.reached]
  case defined => grind [searched.defined]
  case onward => grind [searched.onward]
  case reported => grind [searched.reported]

/-- The search for undefined tasks reports the branches of tasks that can be reached which go on to
something that is neither a task nor a command, all of them and nothing else. -/
theorem mem_undefinedTasks {found : List Undefined} (searched : flow.undefinedTasks = .ok found)
    (u : Undefined) : u ∈ found ↔ flow.Reaches u.task ∧ flow.Lacks u := by
  obtain ⟨last, done, same⟩ := bind_eq_ok.mp searched
  cases Except.ok.inj same
  have searched : flow.Searched last [] := by
    refine Worklist.run_drain (fun state waiting => flow.Searched state waiting)
      (fun s a rest s' more searched visited => searched.visit visited) ?_ done
    refine ⟨fun _ isStart => .inr isStart, ?_, List.forall_mem_nil _,
      List.forall_mem_nil _, by simp⟩
    rintro name (there | isStart)
    · cases there
    · exact .start isStart
  have everywhere {name : String} (reaches : flow.Reaches name) : flow.has name = true →
      Command.isName name = false → name ∈ last.visited := by
    induction reaches with
    | start isStart => exact fun _ _ => (searched.starts _ isStart).resolve_right List.not_mem_nil
    | onward _ leads ih =>
      intro has other
      obtain ⟨link, goes, -⟩ := id leads
      obtain ⟨step, found, -⟩ := goes_iff.mp goes
      have before := ih (has_iff.mpr ⟨step, found⟩) goes.notCommand
      exact (searched.onward _ before _ leads has other).resolve_right List.not_mem_nil
  rw [searched.reported]
  constructor
  · rintro ⟨there, lacks⟩
    exact ⟨searched.reached _ (.inl there), lacks⟩
  · rintro ⟨reaches, lacks⟩
    exact ⟨everywhere reaches lacks.known.1 lacks.known.2, lacks⟩

theorem exists_undefinedTasks (plain : flow.Plain) : ∃ found, flow.undefinedTasks = .ok found ∧
    ∀ u, u ∈ found ↔ flow.Reaches u.task ∧ flow.Aims u.task u.branch u.target ∧
      flow.has u.target = false := by
  obtain ⟨last, done⟩ := exists_seekUndefined plain
  have searched : flow.undefinedTasks = .ok last.undefined := bind_eq_ok.mpr ⟨last, done, rfl⟩
  exact ⟨_, searched, fun u => by rw [mem_undefinedTasks searched, plain.lacks_iff]⟩

theorem undefinedTasks_of_targets (plain : flow.Plain)
    (defined : ∀ step ∈ flow.steps, ∀ branch ∈ step.branches,
    ∀ target ∈ branch.targets, flow.has target = true) : flow.undefinedTasks = .ok [] := by
  obtain ⟨found, searched, reported⟩ := exists_undefinedTasks plain
  refine searched.trans (congrArg Except.ok (List.eq_nil_iff_forall_not_mem.mpr fun u among => ?_))
  obtain ⟨-, isAim, undefined⟩ := (reported u).mp among
  obtain ⟨link, goes, same⟩ := leads_iff.mpr ⟨_, isAim⟩
  obtain ⟨step, mem, -, isLink⟩ := goes.exists_step
  obtain ⟨branch, isBranch, isTarget⟩ := Step.exists_link.mp ⟨link, isLink, same⟩
  exact absurd (defined step mem branch isBranch u.target isTarget) (by simp [undefined])

theorem closed_of_undefinedTasks (nothing : flow.undefinedTasks = .ok []) : flow.Closed := by
  have reported := mem_undefinedTasks nothing
  intro name reaches
  have has : flow.has name = true := by
    cases reaches with
    | start isStart => exact has_of_mem (mem_startTasks.mp isStart).1
    | @onward before _ reaches leads =>
      obtain ⟨i, isAim⟩ := leads_iff.mp leads
      by_contra undefined
      exact absurd
        ((reported ⟨before, i, name⟩).mpr ⟨reaches, .inl ⟨isAim, by simpa using undefined⟩⟩)
        List.not_mem_nil
  obtain ⟨step, found⟩ := has_iff.mp has
  refine ⟨step, found, List.eq_nil_iff_forall_not_mem.mpr fun one isOdd => ?_⟩
  exact absurd ((reported ⟨name, one.1, one.2.text⟩).mpr
    ⟨reaches, .inr ⟨step, one.2, found, isOdd, rfl⟩⟩) List.not_mem_nil

theorem closed_of_targets (plain : flow.Plain)
    (defined : ∀ step ∈ flow.steps, ∀ branch ∈ step.branches,
    ∀ target ∈ branch.targets, flow.has target = true) : flow.Closed :=
  closed_of_undefinedTasks (undefinedTasks_of_targets plain defined)

/-! ### Ways back -/

theorem leads_of_mem {step : Step} {link : Link} (found : flow.step name = .ok step)
    (mem : link ∈ step.links) :
    flow.Leads name link.task := ⟨link, goes_iff.mpr ⟨step, found, mem⟩, rfl⟩

theorem Leads.mem_onward {step : Step} (leads : flow.Leads name next)
    (found : flow.step name = .ok step) : .inl next ∈ step.onward := by
  obtain ⟨link, goes, rfl⟩ := leads
  exact Step.mem_onward.mpr ⟨link, goes.mem_links found, rfl⟩

theorem leads_of_mem_onward {step : Step} {target : String ⊕ Value}
    (found : flow.step name = .ok step) (plain : step.odd = []) (isNext : target ∈ step.onward) :
    ∃ next, target = .inl next ∧ flow.Leads name next := by
  rw [Step.onward_eq plain] at isNext
  obtain ⟨link, mem, rfl⟩ := List.mem_map.mp isNext
  exact ⟨link.task, rfl, leads_of_mem found mem⟩

def Behind (flow : Flow) (k : Nat) (visited : List String) (target : String ⊕ Value) : Prop :=
  ∃ name, target = .inl name ∧ flow.Reaches name ∧ ∃ path :
    List String, path.length = k ∧ path.Nodup ∧ path ⊆ visited ∧ path ⊆ flow.steps.map (·.name)

theorem exists_seekReturn (closed : flow.Closed) (origin : String) {waiting : List (String ⊕ Value)}
    (reached : ∀ target ∈ waiting, ∃ name, target = .inl name ∧ flow.Reaches name) :
    ∃ last, Worklist.run (flow.seekReturn origin) flow.rounds ⟨[], false⟩ waiting = .ok last := by
  have waits : ∀ target ∈ waiting, flow.Behind 0 [] target := by
    intro target waits
    obtain ⟨name, same, reached⟩ := reached target waits
    exact ⟨name, same, reached, [], rfl, List.nodup_nil, List.nil_subset _, List.nil_subset _⟩
  refine Worklist.run_ends (fun _ => True)
    (fun k state target => flow.Behind k state.visited target)
    (flow.steps.length + 1) ?_ ?_ trivial waits (by unfold rounds; omega)
  · rintro k state _ _ ⟨name, rfl, reached, path, length, distinct, seen, steps⟩
    have nothing {state' : Return} (same : state'.visited = state.visited) :
        (∀ b ∈ ([] : List (String ⊕ Value)), flow.Behind (k + 1) state'.visited b) ∧
          ∀ j b, flow.Behind j state.visited b → flow.Behind j state'.visited b :=
      ⟨List.forall_mem_nil _, fun j b behind => same ▸ behind⟩
    unfold seekReturn
    by_cases found : state.found = true
    · exact ⟨state, [], if_pos found, trivial, nothing rfl⟩
    rw [if_neg found]
    dsimp only
    by_cases back : (name == origin) = true
    · exact ⟨_, [], if_pos back, trivial, nothing rfl⟩
    rw [if_neg back]
    by_cases known : state.visited.contains name = true
    · exact ⟨state, [], if_pos known, trivial, nothing rfl⟩
    rw [if_neg known]
    obtain ⟨step, isStep, plain⟩ := closed name reached
    have new : name ∉ state.visited := by simpa using known
    refine ⟨_, _, bind_eq_ok.mpr ⟨step, isStep, rfl⟩, trivial, ?_, ?_⟩
    · intro target isNext
      obtain ⟨next, rfl, leads⟩ := leads_of_mem_onward isStep plain isNext
      refine ⟨next, rfl, .onward reached leads, name :: path, by simp [length], ?_, ?_, ?_⟩
      · exact List.nodup_cons.mpr ⟨fun there => new (seen there), distinct⟩
      · exact List.cons_subset_cons _ seen
      · exact List.cons_subset.mpr ⟨leads.mem_names, steps⟩
    · rintro j _ ⟨other, rfl, reached, path, length, distinct, seen, steps⟩
      exact ⟨other, rfl, reached, path, length, distinct,
        List.Subset.trans seen (List.subset_cons_self _ _), steps⟩
  · rintro k state _ - ⟨-, -, -, path, length, distinct, -, steps⟩
    have := length_le_steps distinct steps
    omega

structure Sought (flow : Flow) (origin : String) (visited : List String)
    (waiting : List (String ⊕ Value)) : Prop where
  notBack : origin ∉ visited
  onward : ∀ name, name = origin ∨ name ∈ visited → ∀ next, flow.Leads name next →
    next ∈ visited ∨ .inl next ∈ waiting

theorem Sought.visit {origin : String} {state last : Return} {target : String ⊕ Value}
    {rest more : List (String ⊕ Value)}
    (old : state.found = false → flow.Sought origin state.visited (target :: rest))
    (visited : flow.seekReturn origin state target = .ok (last, more))
    (notFound : last.found = false) : flow.Sought origin last.visited (rest ++ more) := by
  unfold seekReturn at visited
  split at visited
  case isTrue found =>
    cases Except.ok.inj visited
    rw [found] at notFound
    cases notFound
  case isFalse unfound =>
    have sought := old (by simpa using unfound)
    cases target with
    | inr odd => cases visited
    | inl name =>
      have before (from' : String) (isFrom : from' = origin ∨ from' ∈ state.visited)
          (next : String) (leads : flow.Leads from' next) :
          next = name ∨ next ∈ state.visited ∨ .inl next ∈ rest ++ more := by
        have := sought.onward from' isFrom next leads
        grind
      dsimp only at visited
      split at visited
      · cases Except.ok.inj visited
        cases notFound
      · split at visited
        case isTrue known =>
          cases Except.ok.inj visited
          have seen : name ∈ state.visited := by simpa using known
          refine ⟨sought.notBack, fun from' isFrom next leads => ?_⟩
          rcases before from' isFrom next leads with rfl | later
          · exact .inl seen
          · exact later
        case isFalse other _ =>
          obtain ⟨step, found, visited⟩ := bind_eq_ok.mp visited
          cases Except.ok.inj visited
          have apart : origin ≠ name := fun same => other (by simp [same])
          refine ⟨fun there => (List.mem_cons.mp there).elim apart sought.notBack,
            fun from' isFrom next leads => ?_⟩
          by_cases here : from' = name
          · subst here
            exact .inr (List.mem_append_right _ (leads.mem_onward found))
          · have earlier : from' = origin ∨ from' ∈ state.visited :=
              isFrom.imp id fun there => (List.mem_cons.mp there).resolve_left here
            rcases before from' earlier next leads with rfl | there | waits
            · exact .inl (List.mem_cons_self ..)
            · exact .inl (List.mem_cons_of_mem _ there)
            · exact .inr waits

/-- It can be told of a task whether there is a way from it back to itself, and if there is one, it
is found. -/
theorem exists_inCycle (closed : flow.Closed) (reached : flow.Reaches name) :
    ∃ found, flow.inCycle name = .ok found ∧
      (Relation.TransGen flow.Leads name name → found = true) := by
  obtain ⟨step, isStep, plain⟩ := closed name reached
  have onward : ∀ target ∈ step.onward, ∃ next, target = .inl next ∧ flow.Reaches next := by
    intro target isNext
    obtain ⟨next, same, leads⟩ := leads_of_mem_onward isStep plain isNext
    exact ⟨next, same, .onward reached leads⟩
  obtain ⟨last, done⟩ := exists_seekReturn closed name onward
  refine ⟨last.found, ?_, fun cycle => ?_⟩
  · exact bind_eq_ok.mpr ⟨step, isStep, bind_eq_ok.mpr ⟨last, done, rfl⟩⟩
  · by_contra unfound
    have sought : flow.Sought name last.visited [] := by
      refine Worklist.run_drain (fun state waiting => state.found = false →
        flow.Sought name state.visited waiting)
        (fun s a rest s' more old visited => Sought.visit old visited) (fun _ => ?_) done
        (by simpa using unfound)
      refine ⟨List.not_mem_nil, fun from' isFrom next leads => ?_⟩
      rcases isFrom with rfl | there
      · exact .inr (leads.mem_onward isStep)
      · cases there
    have everywhere : ∀ next, Relation.TransGen flow.Leads name next → next ∈ last.visited := by
      intro next way
      induction way with
      | single leads => exact (sought.onward name (.inl rfl) _ leads).resolve_right List.not_mem_nil
      | tail _ leads ih =>
        exact (sought.onward _ (.inr ih) _ leads).resolve_right List.not_mem_nil
    exact sought.notBack (everywhere name cycle)

end Flow

end Orchestration
