import Orchestration.Proofs.Spreading
import Orchestration.Proofs.Targets
import Orchestration.Spec.Assignment

/-!
Inspections come to an end.

The tasks of a mapping are gone through along their transitions to see what is assigned before it is
used. However the transitions come back, a task is gone on to only if it has not been visited, so
that the walk ends; then every task that can be reached has been inspected.
-/

namespace Orchestration.Spec

variable {fuel : Nat} {s task tasks transition : Spec} {flow : Flow} {inspect : InspectContext}
  {place : Place} {names : List Value} {walk last : Walk} {name : String}

/-! ### What can be inspected -/

theorem exists_foldlM {α β : Type} {f : β → α → Except Error β} {list : List α}
    (each : ∀ a ∈ list, ∀ b, ∃ c, f b a = .ok c) (b : β) : ∃ c, list.foldlM f b = .ok c := by
  induction list generalizing b with
  | nil => exact ⟨b, rfl⟩
  | cons a rest ih =>
    obtain ⟨first, others⟩ := List.forall_mem_cons.mp each
    obtain ⟨c, done⟩ := first b
    obtain ⟨last, ended⟩ := ih others c
    rw [List.foldlM_cons]
    exact ⟨last, bind_eq_ok.mpr ⟨c, done, ended⟩⟩

/-- A specification can be inspected if its properties can be read and its parts can be
inspected. -/
theorem exists_contextWithin (other : (s.kind == .tasks) = false)
    (reads : ∀ name ∈ s.kind.evaluationOrder, s.kind.reads name = true ∧ s.raw.isMap = true)
    (parts : ∀ part ∈ s.parts, part.1 ∈ s.kind.evaluationOrder → ∀ parent, ∃ known,
      contextWithin fuel part.2 parent = .ok known) (parent : Option Parent) :
    ∃ known, contextWithin (fuel + 1) s parent = .ok known := by
  rw [contextWithin, other, if_neg Bool.false_ne_true]
  refine .imp' _ (fun known done => bind_eq_ok.mpr ⟨known, done, rfl⟩)
    (exists_foldlM (fun name inOrder known => ?_) _)
  cases isPart : s.part? name with
  | none =>
    obtain ⟨v, read⟩ := exists_value (reads name inOrder).1 isPart (reads name inOrder).2
    cases filled : (Property.value v).truthy <;> simp [read, filled, bind, Except.bind]
  | some part =>
    have read := property_of_part? isPart
    obtain ⟨inner, inspected⟩ := parts _ (mem_of_part? isPart) inOrder
      (some ⟨Place.property (parent.map (·.place)) name, known.names⟩)
    cases filled : (Property.spec part).truthy <;> simp [read, filled, inspected, bind, Except.bind]

theorem IsPart.inspects {kind : Kind} (isPart : IsPart kind s)
    (bare : (kindsIn kind.written "properties" = [] ∧
      kindsIn kind.written "patternProperties" = []) ∧ (kind == .tasks) = false)
    (reads : ∀ name ∈ kind.evaluationOrder, kind.reads name = true ∧ s.raw.isMap = true)
    (parent : Option Parent) : ∃ known, contextWithin (fuel + 1) s parent = .ok known := by
  obtain ⟨isKind, noParts, -⟩ := isPart.bare bare.1
  refine exists_contextWithin (isKind ▸ bare.2) (isKind ▸ reads) (fun part mem => ?_) parent
  rw [noParts] at mem
  cases mem

/-- A task that can be inspected. If it is repeated, it says so in a mapping. -/
structure Inspects (task : Spec) : Prop where
  kind : task.kind = .task
  isMap : task.raw.isMap = true
  parts : ∀ part ∈ task.parts, ∃ kind,
    (part.1, kind) ∈ [("with", Kind.repetition), ("retry", .retry), ("next", .transitions)] ∧
    IsPart kind part.2
  items : ∀ part ∈ task.parts, part.1 = "with" → part.2.raw.isMap = true

theorem Inspects.exists_contextWithin (able : task.Inspects) (parent : Option Parent) :
    ∃ known, contextWithin (fuel + 2) task parent = .ok known := by
  have reads : ∀ name ∈ Kind.evaluationOrder .task, Kind.reads .task name = true := by
    decide +kernel
  refine Spec.exists_contextWithin (able.kind ▸ rfl) (fun name inOrder => ?_)
    (fun part mem inOrder parent => ?_) parent
  · rw [able.kind] at inOrder ⊢
    exact ⟨reads name inOrder, able.isMap⟩
  · obtain ⟨kind, isKind, isPart⟩ := able.parts part mem
    have items := able.items part mem
    rw [able.kind] at inOrder
    simp only [List.mem_cons, Prod.mk.injEq, List.not_mem_nil, or_false] at isKind
    rcases isKind with ⟨isWith, rfl⟩ | ⟨isRetry, -⟩ | ⟨-, rfl⟩
    · have reads : ∀ name ∈ Kind.evaluationOrder .repetition,
          Kind.reads .repetition name = true := by decide +kernel
      exact isPart.inspects (by decide +kernel)
        (fun name inOrder => ⟨reads name inOrder, items isWith⟩) parent
    · rw [isRetry] at inOrder
      exact absurd inOrder (by decide)
    · exact isPart.inspects (by decide +kernel) (List.forall_mem_nil _) parent

/-- A command stands for a task that can be inspected, and that goes on to nothing. -/
theorem exists_command (tasks : Spec) (command : Command.isName name = true) :
    ∃ task, tasks.task name = .ok (.spec task) ∧ task.Inspects ∧ task.transitions = .ok [] := by
  obtain ⟨task, made, checked⟩ : ∃ task, make .task (.fields [("name", .str name)]) = .ok task ∧
      (task.kind == .task && task.raw.isMap && task.parts.isEmpty) = true := by
    simp only [Command.isName, Command.names, Command.all, List.map_cons, List.map_nil,
      List.contains_iff_mem, List.mem_cons, List.not_mem_nil, or_false] at command
    rcases command with rfl | rfl | rfl | rfl <;> exact exists_of_any (by decide +kernel)
  simp only [Bool.and_eq_true, beq_iff_eq, List.isEmpty_iff] at checked
  obtain ⟨⟨isKind, isMap⟩, noParts⟩ := checked
  have able : task.Inspects := ⟨isKind, isMap, by simp [noParts], by simp [noParts]⟩
  have reads : task.kind.reads "next" = true := isKind ▸ (by decide +kernel)
  obtain ⟨v, read⟩ := exists_value reads (by simp [part?, noParts]) isMap
  refine ⟨task, ?_, able, ?_⟩
  · rw [Spec.task, if_pos command, made]
    rfl
  · rw [transitions, read]
    rfl

/-! ### Where the walk stops -/

/-- A mapping of tasks that can be inspected: every target is a task or a command, and a task that
is repeated says so in a mapping. -/
structure Inspectable (tasks : Spec) : Prop extends NamesTasks tasks where
  defined : ∀ part ∈ tasks.parts, ∀ transition ∈ part.2.next, ∀ target ∈ transition.targetNames,
    tasks.hasTask target = true
  items : ∀ part ∈ tasks.parts, ∀ inner ∈ part.2.parts, inner.1 = "with" → inner.2.raw.isMap = true

def inspectPart : InspectContext := contextWithin (Kind.deepest - 1)

/-- A task at which the walk stops, with its transitions and where these lead. -/
structure Stop (tasks : Spec) (flow : Flow) (name : String) (task : Spec)
    (transitions : List Spec) : Prop where
  found : tasks.task name = .ok (.spec task)
  inspected : ∀ parent, ∃ known, inspectPart task parent = .ok known
  onward : task.transitions = .ok transitions
  each : ∀ transition ∈ transitions,
    (∀ parent, ∃ known, inspectPart transition parent = .ok known) ∧ ∃ targets :
    List String, transition.targets = .ok (targets.map .str) ∧
      ∀ target ∈ targets, flow.Leads name target
  all : ∀ target, flow.Leads name target → ∃ transition ∈ transitions, ∃ targets : List String,
    transition.targets = .ok (targets.map .str) ∧ target ∈ targets

theorem leads_iff_branch {step : Step} {target : String} (found : flow.step name = .ok step) :
    flow.Leads name target ↔ ∃ branch ∈ step.branches, target ∈ branch.targets := by
  rw [← Step.exists_link]
  constructor
  · rintro ⟨link, goes, same⟩
    exact ⟨link, goes.mem_links found, same⟩
  · rintro ⟨link, isLink, rfl⟩
    exact Flow.leads_of_mem found isLink

theorem task_of_hasField (noCommand : ¬Command.isName name = true)
    (there : tasks.raw.hasField name = true) : tasks.task name = tasks.property name := by
  cases raw : tasks.raw with
  | map entries =>
    obtain ⟨entry, isEntry, same⟩ := List.mem_map.mp (Value.hasField_iff.mp (raw ▸ there))
    have known : Entries.hasStr entries name = true :=
      List.any_eq_true.mpr ⟨entry, isEntry, same ▸ (Value.str_beq ..).trans (beq_self_eq_true _)⟩
    rw [Spec.task, if_neg noCommand, raw]
    exact if_pos known
  | _ =>
    rw [raw] at there
    cases there

theorem Inspectable.exists_stop (able : tasks.Inspectable) (described : tasks.flow = .ok flow)
    (has : flow.has name = true) : ∃ task transitions, tasks.Stop flow name task transitions := by
  obtain ⟨step, found⟩ := Flow.has_iff.mp has
  by_cases command : Command.isName name = true
  case pos =>
    obtain ⟨task, isTask, inspects, nothing⟩ := exists_command tasks command
    refine ⟨task, [], isTask, fun parent => inspects.exists_contextWithin parent, nothing,
      List.forall_mem_nil _, ?_⟩
    intro target way
    rw [leads_iff_branch found, Flow.step_of_isName found command] at way
    obtain ⟨_, isBranch, -⟩ := way
    cases isBranch
  case neg =>
    obtain ⟨mem, rfl⟩ := Flow.mem_of_step found (Bool.eq_false_iff.mpr command)
    obtain ⟨there, property, isProperty, made⟩ := step_of_flow described mem
    obtain ⟨task, isTask, isPart, named⟩ := able.toNamesTasks.parts.2 _ there
    cases Except.ok.inj (isProperty.symm.trans (property_of_part? isTask))
    obtain ⟨_, transitions, branches, same, areTransitions, mapped, -, isStep⟩ :=
      toStep_eq_ok.mp made
    cases same
    have areBranches : step.branches = branches.map (·.branch) := congrArg Step.branches isStep
    obtain ⟨isKind, isMap, parts⟩ := isPart.ofTask
    have inspects : task.Inspects := ⟨isKind, isMap, parts, able.items _ (mem_of_part? isTask)⟩
    obtain ⟨areNext, eachPart⟩ := isPart.transitions
    cases Except.ok.inj (areTransitions.symm.trans areNext)
    have targets {transition : Spec} {written : Written} (isNext : transition ∈ task.next)
        (made : read transition = .ok written) :
        transition.targets = .ok (written.branch.targets.map .str) := by
      obtain ⟨_, same, -, areTargets, -⟩ :=
        (eachPart transition isNext).exists_read (named transition isNext)
      cases Except.ok.inj (made.symm.trans same)
      exact areTargets
    refine ⟨task, task.next, (task_of_hasField command there).trans isProperty,
      fun parent => inspects.exists_contextWithin parent, areNext, ?_, ?_⟩
    · intro transition isNext
      obtain ⟨written, isWritten, made⟩ := mem_of_mapM mapped transition isNext
      have isBranch : written.branch ∈ step.branches := areBranches ▸ List.mem_map_of_mem isWritten
      obtain ⟨isMap, -⟩ := Bool.and_eq_true_iff.mp (named transition isNext)
      have reads : ∀ name ∈ Kind.evaluationOrder .transition,
          Kind.reads .transition name = true := by decide +kernel
      exact ⟨(eachPart transition isNext).inspects (by decide +kernel)
        fun name inOrder => ⟨reads name inOrder, isMap⟩, _, targets isNext made,
          fun target isTarget => (leads_iff_branch found).mpr ⟨_, isBranch, isTarget⟩⟩
    · intro target way
      obtain ⟨branch, isBranch, isTarget⟩ := (leads_iff_branch found).mp way
      obtain ⟨written, isWritten, rfl⟩ := List.mem_map.mp (areBranches ▸ isBranch)
      obtain ⟨transition, isNext, made⟩ := exists_of_mem_mapM mapped written isWritten
      exact ⟨transition, isNext, _, targets isNext made, isTarget⟩

/-! ### The walk -/

theorem mem_union {text : String} {left right : List Value} :
    .str text ∈ union left right ↔ .str text ∈ left ∨ .str text ∈ right := by
  have general (rest found : List Value) : .str text ∈ rest.foldl (fun found v =>
      if found.any (· == v) then found else found ++ [v]) found ↔ .str text ∈ found ∨
        .str text ∈ rest := by
    induction rest generalizing found with
    | nil => simp
    | cons v rest ih =>
      rw [List.foldl_cons, ih]
      split
      case isTrue known =>
        -- What is left out because it is there already is not another text.
        have there : v = .str text → .str text ∈ found := by
          rintro rfl
          obtain ⟨w, isFound, same⟩ := List.any_eq_true.mp known
          exact Value.eq_str_of_beq same ▸ isFound
        grind
      case isFalse => grind
  rw [union, Parent.distinct, general, List.mem_append]
  simp

/-- Going on to some targets: those that have not been visited will be, and what has been found
stays. -/
structure Walk.Goes (walk last : Walk) (targets : List Value)
    (more : List (String × List Value)) : Prop where
  visited : last.visited = walk.visited
  names : last.names = walk.names
  findings : walk.findings ⊆ last.findings
  new : ∀ item ∈ more, .str item.1 ∈ targets ∧ item.1 ∉ walk.visited
  all : ∀ target, .str target ∈ targets → target ∈ walk.visited ∨ target ∈ more.map (·.1)

theorem Walk.Goes.append {middle : Walk} {targets others : List Value}
    {more further : List (String × List Value)} (first : walk.Goes middle targets more)
    (second : middle.Goes last others further) :
    walk.Goes last (targets ++ others) (more ++ further) := by
  have seen := first.visited
  constructor
  case visited => exact second.visited.trans seen
  case names => exact second.names.trans first.names
  case findings => exact List.Subset.trans first.findings second.findings
  case new =>
    intro item isItem
    rcases List.mem_append.mp isItem with early | later
    · exact (first.new item early).imp_left (List.mem_append_left _)
    · exact (second.new item later).imp (List.mem_append_right _) (seen ▸ id)
  case all => grind [first.all, second.all]

theorem exists_goOn {i : Nat} {target : String}
    (inspected : ∀ parent, ∃ known, inspect transition parent = .ok known) (filled : target ≠ "")
    (has : tasks.hasTask target = true) (found : tasks.task target = .ok (.spec task))
    (walk : Walk) :
    ∃ last more, goOn inspect tasks place names walk transition i (.str target) = .ok (last, more) ∧
      walk.Goes last [.str target] more := by
  obtain ⟨known, inspected⟩ := inspected (some ⟨place.transition i, names⟩)
  have grown : walk.findings ⊆ walk.findings ++ known.findings := List.subset_append_left ..
  by_cases visited : target ∈ walk.visited
  case pos =>
    exact ⟨{ walk with findings := walk.findings ++ known.findings }, [], bind_eq_ok.mpr
      ⟨known, inspected, if_pos (by simp [visited])⟩, rfl, rfl, grown,
      List.forall_mem_nil _, by simp [visited]⟩
  case neg =>
    have further : ¬(target.isEmpty || walk.visited.contains target ||
      !tasks.hasTask target) = true := by
      simp [filled, visited, has]
    cases joins : task.joins with
    | true =>
      exact ⟨_, _, bind_eq_ok.mpr
        ⟨known, inspected, (if_neg further).trans (bind_eq_ok.mpr ⟨_, found, if_pos joins⟩)⟩,
        rfl, rfl, grown, by simp [visited], by simp⟩
    | false =>
      exact ⟨_, _, bind_eq_ok.mpr
        ⟨known, inspected, (if_neg further).trans (bind_eq_ok.mpr ⟨_, found,
        if_neg (by simp [joins])⟩)⟩, rfl, rfl, grown, by simp [visited], by simp⟩

theorem exists_goOnAll {ways : List (Spec × Nat × Value)} (each : ∀ way ∈ ways,
      (∀ parent, ∃ known, inspect way.1 parent = .ok known) ∧
      ∃ target task, way.2.2 = .str target ∧ target ≠ "" ∧ tasks.hasTask target = true ∧
        tasks.task target = .ok (.spec task)) (walk : Walk) (next : List (String × List Value)) :
    ∃ last more, ways.foldlM (fun reached way => do
        let found ← goOn inspect tasks place names reached.1 way.1 way.2.1 way.2.2
        .ok (found.1, reached.2 ++ found.2)) (walk, next) = Except.ok (last, next ++ more) ∧
      walk.Goes last (ways.map (·.2.2)) more := by
  induction ways generalizing walk next with
  | nil =>
    exact ⟨walk, [], by rw [List.append_nil]; rfl, rfl, rfl, List.Subset.refl _, by simp, by simp⟩
  | cons way rest ih =>
    obtain ⟨⟨inspected, target, task, isTarget, filled, has, found⟩, others⟩ :=
      List.forall_mem_cons.mp each
    obtain ⟨middle, first, went, goes⟩ := exists_goOn inspected filled has found walk
    obtain ⟨last, more, done, goes'⟩ := ih others middle (next ++ first)
    rw [List.append_assoc] at done
    rw [← isTarget] at went goes
    exact ⟨last, first ++ more,
      List.foldlM_cons.trans (bind_eq_ok.mpr ⟨_, bind_eq_ok.mpr ⟨_, went, rfl⟩, done⟩),
      goes.append goes'⟩

/-- A task is inspected with some names. All that is wrong with it is told, and what it assigns is
known. -/
def Learns (tasks : Spec) (place : Place) (name : String) (names : List Value)
    (walk : Walk) : Prop :=
  ∃ task known, tasks.task name = .ok (.spec task) ∧
    inspectPart task (some ⟨place.entry name, names⟩) = .ok known ∧ known.findings ⊆ walk.findings ∧
    ∀ text, .str text ∈ names ++ known.names → .str text ∈ walk.names

theorem Learns.mono (learns : tasks.Learns place name names walk)
    (findings : walk.findings ⊆ last.findings)
    (assigned : ∀ text, .str text ∈ walk.names → .str text ∈ last.names) :
    tasks.Learns place name names last := by
  obtain ⟨task, known, found, inspected, told, learnt⟩ := learns
  exact ⟨task, known, found, inspected, List.Subset.trans told findings,
    fun text there => assigned text (learnt text there)⟩

structure Visits (tasks : Spec) (flow : Flow) (place : Place) (walk last : Walk) (name : String)
    (names : List Value) (more : List (String × List Value)) : Prop where
  visited : last.visited = name :: walk.visited
  learns : tasks.Learns place name (walk.namesAt name names) last
  findings : walk.findings ⊆ last.findings
  names : ∀ text, .str text ∈ walk.names → .str text ∈ last.names
  new : ∀ item ∈ more, flow.Leads name item.1 ∧ item.1 ∉ last.visited
  all : ∀ target, flow.Leads name target → target ∈ last.visited ∨ target ∈ more.map (·.1)

theorem Inspectable.hasTask_of_has (able : tasks.Inspectable) (described : tasks.flow = .ok flow)
    (has : flow.has name = true) : tasks.hasTask name = true ∧ name ≠ "" := by
  by_cases command : Command.isName name = true
  · refine ⟨by simp [hasTask, command], ?_⟩
    rintro rfl
    exact absurd command (by decide)
  · obtain ⟨step, mem, rfl⟩ :=
      List.mem_map.mp (Flow.defines_iff.mp (by simpa [Flow.has, command] using has))
    have there := (step_of_flow described mem).1
    refine ⟨by simp [hasTask, there], fun empty => ?_⟩
    have isWord := able.names _ there
    rw [namesTask, empty, Bool.and_assoc] at isWord
    exact absurd (Bool.and_eq_true_iff.mp isWord).1 (by decide +kernel)

/-- The ways on from a stop: they lead where the task leads, and nowhere else. -/
theorem Stop.exists_ways {transitions : List Spec} (stop : tasks.Stop flow name task transitions) :
    ∃ ways : List (List (Spec × Nat × Value)), transitions.zipIdx.mapM (fun one => do
        .ok ((← one.1.targets).map fun target => (one.1, one.2, target))) = Except.ok ways ∧
      (∀ way ∈ ways.flatten, (∀ parent, ∃ known, inspectPart way.1 parent = .ok known) ∧
        ∃ target, way.2.2 = .str target ∧ flow.Leads name target) ∧
      ∀ target, flow.Leads name target → .str target ∈ ways.flatten.map (·.2.2) := by
  obtain ⟨ways, mapped⟩ := exists_mapM (f := fun one : Spec × Nat => do
      Except.ok ((← one.1.targets).map fun target => (one.1, one.2, target)))
      fun one (isOne : one ∈ transitions.zipIdx) => by
    obtain ⟨-, targets, areTargets, -⟩ := stop.each one.1 (List.fst_mem_of_mem_zipIdx isOne)
    exact ⟨_, bind_eq_ok.mpr ⟨_, areTargets, rfl⟩⟩
  refine ⟨ways, mapped, fun way isWay => ?_, fun target leads => ?_⟩
  · obtain ⟨list, inWays, inList⟩ := List.mem_flatten.mp isWay
    obtain ⟨one, isOne, made⟩ := exists_of_mem_mapM mapped list inWays
    obtain ⟨inspected, targets, areTargets, leads⟩ :=
      stop.each one.1 (List.fst_mem_of_mem_zipIdx isOne)
    rw [areTargets] at made
    cases Except.ok.inj made
    obtain ⟨_, isItem, rfl⟩ := List.mem_map.mp inList
    obtain ⟨target, isTarget, rfl⟩ := List.mem_map.mp isItem
    exact ⟨inspected, target, rfl, leads target isTarget⟩
  · obtain ⟨transition, isNext, targets, areTargets, isTarget⟩ := stop.all target leads
    obtain ⟨i, there⟩ := List.mem_iff_getElem?.mp isNext
    obtain ⟨list, inWays, made⟩ :=
      mem_of_mapM mapped (transition, i) (List.mem_zipIdx_iff_getElem?.mpr there)
    rw [areTargets] at made
    cases Except.ok.inj made
    exact List.mem_map.mpr
      ⟨_, List.mem_flatten.mpr ⟨_, inWays, List.mem_map_of_mem (List.mem_map_of_mem isTarget)⟩, rfl⟩

section Walks

variable (able : tasks.Inspectable) (described : tasks.flow = .ok flow) (closed : flow.Closed)

include able described closed

theorem exists_visitTask (reaches : flow.Reaches name) (place : Place) (walk : Walk)
    (names : List Value) :
    ∃ last more, visitTask inspectPart tasks place walk (name, names) = .ok (last, more) ∧
      tasks.Visits flow place walk last name names more := by
  obtain ⟨task, transitions, stop⟩ := able.exists_stop described (closed.has reaches)
  obtain ⟨ways, mapped, each, all⟩ := stop.exists_ways
  let before := walk.namesAt name names
  obtain ⟨known, inspected⟩ := stop.inspected (some ⟨place.entry name, before⟩)
  obtain ⟨last, more, done, goes⟩ := exists_goOnAll (fun way isWay => by
      obtain ⟨inspected, target, isTarget, leads⟩ := each way isWay
      have has := closed.has (.onward reaches leads)
      obtain ⟨there, filled⟩ := able.hasTask_of_has described has
      obtain ⟨task, _, stop⟩ := able.exists_stop described has
      exact ⟨inspected, target, task, isTarget, filled, there, stop.found⟩)
    ⟨walk.joined, name :: walk.visited, walk.findings ++ known.findings,
      union walk.names (union before known.names)⟩ []
  refine ⟨last, more, bind_eq_ok.mpr
    ⟨_, stop.found, bind_eq_ok.mpr ⟨known, inspected, bind_eq_ok.mpr ⟨_, stop.onward,
    bind_eq_ok.mpr ⟨ways, mapped, done⟩⟩⟩⟩, ?_⟩
  have names' (text : String) : .str text ∈ walk.names ∨ .str text ∈ before ++ known.names →
      .str text ∈ last.names := by
    rw [goes.names, mem_union, mem_union, List.mem_append]
    exact id
  constructor
  case visited => exact goes.visited
  case findings => exact List.Subset.trans (List.subset_append_left ..) goes.findings
  case names => exact fun text there => names' text (.inl there)
  case learns =>
    exact ⟨task, known, stop.found, inspected,
      List.Subset.trans (List.subset_append_right ..) goes.findings,
      fun text there => names' text (.inr there)⟩
  case new =>
    intro item isItem
    obtain ⟨isTarget, fresh⟩ := goes.new item isItem
    obtain ⟨way, isWay, same⟩ := List.mem_map.mp isTarget
    obtain ⟨-, target, isOther, leads⟩ := each way isWay
    cases same.symm.trans isOther
    exact ⟨leads, goes.visited ▸ fresh⟩
  case all => exact fun target leads => goes.visited ▸ goes.all target (all target leads)

theorem exists_walkTasks (place : Place) (names : List Value) :
    ∃ last, walkTasks inspectPart tasks flow place names = .ok last := by
  refine Worklist.run_ends (fun _ => True) (fun k walk item => flow.Reaches item.1 ∧
    flow.Ahead k walk.visited item.1) (flow.steps.length + 1) ?_ (fun _ _ _ _ waits => waits.2.lt)
    trivial (List.forall_mem_map.mpr fun name isStart =>
      ⟨.start isStart, .start [] name⟩) (by unfold Flow.rounds; omega)
  -- A task is gone on to only if it has not been visited, so that it is none of those on the way to
  -- it.
  rintro k walk item - ⟨reaches, ahead⟩
  obtain ⟨last, more, visited, visits⟩ :=
    exists_visitTask able described closed reaches place walk item.2
  refine ⟨last, more, visited, trivial, fun next isNext => ?_,
    fun j other waits => ⟨waits.1, waits.2.mono ?_⟩⟩
  · obtain ⟨leads, fresh⟩ := visits.new next isNext
    rw [visits.visited] at fresh ⊢
    exact ⟨.onward reaches leads, ahead.onward leads fun _ => fresh⟩
  · rw [visits.visited]
    exact List.subset_cons_self ..

/-- The walk goes on from one point to another, where a point is what it knows and what waits. -/
def Advances (tasks : Spec) (place : Place) :
    Walk × List (String × List Value) → Walk × List (String × List Value) → Prop :=
  Worklist.Steps (visitTask inspectPart tasks place)

/-- Between two points the walk comes to a task and inspects it with the names that are known there.
What comes of it is known at the second point. -/
def Inspected (tasks : Spec) (place : Place) (start last : Walk × List (String × List Value))
    (name : String) : Prop :=
  ∃ before names rest, Relation.ReflTransGen (tasks.Advances place) start
    (before, (name, names) :: rest) ∧
    Relation.TransGen (tasks.Advances place) (before, (name, names) :: rest) last ∧
    tasks.Learns place name (before.namesAt name names) last.1

/-- What is known on the walk: what has been visited has been inspected, and where it leads has been
visited or waits. -/
structure Walked (tasks : Spec) (flow : Flow) (place : Place) (names : List Value) (walk : Walk)
    (waiting : List (String × List Value)) : Prop where
  came : Relation.ReflTransGen (tasks.Advances place) (walkStart flow names) (walk, waiting)
  starts : ∀ name ∈ flow.startTasks, name ∈ walk.visited ∨ name ∈ waiting.map (·.1)
  waits : ∀ item ∈ waiting, flow.Reaches item.1
  onward : ∀ name ∈ walk.visited, ∀ next, flow.Leads name next → next ∈ walk.visited ∨
    next ∈ waiting.map (·.1)
  inspected : ∀ name ∈ walk.visited, tasks.Inspected place (walkStart flow names)
    (walk, waiting) name

theorem Walked.visit {item : String × List Value} {rest more : List (String × List Value)}
    (walked : tasks.Walked flow place names walk (item :: rest))
    (done : visitTask inspectPart tasks place walk item = .ok (last, more)) :
    tasks.Walked flow place names last (rest ++ more) := by
  obtain ⟨reaches, waits⟩ := List.forall_mem_cons.mp walked.waits
  obtain ⟨_, _, same, visits⟩ := exists_visitTask able described closed reaches place walk item.2
  cases Except.ok.inj (done.symm.trans same)
  have seen := visits.visited
  have step : tasks.Advances place (walk, item :: rest) (last, rest ++ more) := .step done
  constructor
  case came => exact walked.came.tail step
  case starts => grind [walked.starts]
  case waits =>
    intro next isNext
    rcases List.mem_append.mp isNext with later | new
    · exact waits next later
    · exact .onward reaches (visits.new next new).1
  case onward => grind [walked.onward, visits.all]
  case inspected =>
    intro name isVisited
    rw [seen] at isVisited
    rcases List.mem_cons.mp isVisited with rfl | earlier
    · exact ⟨walk, item.2, rest, walked.came, .single step, visits.learns⟩
    · obtain ⟨before, names, rest, came, went, learns⟩ := walked.inspected name earlier
      exact ⟨before, names, rest, came, went.tail step, learns.mono visits.findings visits.names⟩

theorem walked_of_walkTasks (done : walkTasks inspectPart tasks flow place names = .ok walk) :
    tasks.Walked flow place names walk [] := by
  refine Worklist.run_drain (fun walk waiting => tasks.Walked flow place names walk waiting)
    (fun _ _ _ _ _ walked visited => walked.visit able described closed visited) ?_ done
  exact ⟨.refl, fun name isStart => .inr (by simpa [walkStart] using isStart),
    List.forall_mem_map.mpr fun _ isStart => .start isStart, List.forall_mem_nil _,
    List.forall_mem_nil _⟩

end Walks

/-- When nothing waits any more, every task that can be reached has been visited. -/
theorem Walked.mem_visited (walked : tasks.Walked flow place names walk [])
    (reaches : flow.Reaches name) : name ∈ walk.visited := by
  induction reaches with
  | start isStart => exact (walked.starts _ isStart).resolve_right List.not_mem_nil
  | onward _ leads ih => exact (walked.onward _ ih _ leads).resolve_right List.not_mem_nil

theorem Inspectable.inspectContext_of_walkTasks {parent : Parent} (able : tasks.Inspectable)
    (described : tasks.flow = .ok flow)
    (done : walkTasks inspectPart tasks flow parent.place parent.names = .ok walk) :
    tasks.inspectContext (some parent) = .ok ⟨walk.findings, walk.names⟩ := by
  obtain ⟨_, _, _, _, made⟩ := able.made
  obtain ⟨-, -, -, -, -, -, -, -, -, isKind, -⟩ := buildWithin_eq_ok made
  rw [inspectContext, show Kind.deepest = Kind.deepest - 1 + 1 from rfl, contextWithin, isKind]
  change inspectTasksContext inspectPart tasks (some parent) = _
  unfold inspectTasksContext
  rw [described]
  change (if flow.startTasks.isEmpty then _ else _) = Except.ok _
  split
  case isTrue noStart =>
    rw [walkTasks, walkStart, List.isEmpty_iff.mp noStart] at done
    cases Except.ok.inj done
    rfl
  case isFalse => exact bind_eq_ok.mpr ⟨parent.place, rfl, bind_eq_ok.mpr ⟨walk, done, rfl⟩⟩

/-! ### Both inspections -/

/-- The search for joins that cannot be reached and the inspection of what is assigned come to an
end, whatever cycles there are. Every task that can be reached has been visited on the walk then,
and inspected where the walk came to it. -/
theorem inspections_end (able : tasks.Inspectable) (parent : Parent) :
    (∃ found, tasks.detectUnreachable (some parent.place) = .ok found) ∧
    ∃ flow walk, tasks.flow = .ok flow ∧
      walkTasks inspectPart tasks flow parent.place parent.names = .ok walk ∧
      tasks.inspectContext (some parent) = .ok ⟨walk.findings, walk.names⟩ ∧
      ∀ name, tasks.Reached name → name ∈ walk.visited ∧
        tasks.Inspected parent.place (walkStart flow parent.names) (walk, []) name := by
  obtain ⟨flow, described, shows, all⟩ := able.toNamesTasks.exists_flow
  have closed : flow.Closed :=
    Flow.closed_of_targets (fun step mem => (shows step mem).plain)
      fun step mem branch isBranch target isTarget => by
    rw [has_eq_hasTask shows all]
    by_cases command : Command.isName target = true
    · simp [hasTask, command]
    · obtain ⟨i, there⟩ := List.mem_iff_getElem?.mp isBranch
      obtain ⟨-, task, transition, isTask, isNext, listed⟩ :=
        ((shows step mem).lists i target (Bool.eq_false_iff.mpr command)).mp
          ⟨branch, there, isTarget⟩
      exact able.defined _ (mem_of_part? isTask) transition
        (List.mem_of_getElem? isNext) target listed
  obtain ⟨walk, done⟩ := exists_walkTasks able described closed parent.place parent.names
  have walked := walked_of_walkTasks able described closed done
  refine ⟨exists_unreachable_of_closed described closed parent.place, flow, walk, described, done,
    able.inspectContext_of_walkTasks described done, fun name reached => ?_⟩
  have visited := walked.mem_visited (reached.reaches able.toNamesTasks shows all)
  exact ⟨visited, walked.inspected name visited⟩

/-- Work that is done again and again, also item by item, until it has been checked. -/
def errands : Value := .fields [
  ("plan", .fields [("next", .list [.fields [("do", .str "work, wait")]])]),
  ("work", .fields [("with", .fields [("items", .str "<% ctx().xs %>")]),
    ("next", .list [.fields [("do", .list [.str "check", .str "work"])]])]),
  ("wait", .fields [("next", .list [.fields [("do", .str "check")]])]),
  ("check", .fields [("join", .str "all"), ("next", .list [.fields [("do", .str "work, noop")]])])]

theorem inspections_end_errands : ∃ tasks, make .tasks errands = .ok tasks ∧ tasks.Inspectable ∧
    tasks.Reached "work" ∧
    (∃ found, tasks.detectUnreachable (some ⟨"tasks", "properties.tasks"⟩) = .ok found) ∧
    ∃ flow walk, tasks.flow = .ok flow ∧
      walkTasks inspectPart tasks flow ⟨"tasks", "properties.tasks"⟩ [] = .ok walk ∧
      tasks.inspectContext (some ⟨⟨"tasks", "properties.tasks"⟩, []⟩) =
      .ok ⟨walk.findings, walk.names⟩ ∧ ∀ name, tasks.Reached name → name ∈ walk.visited ∧
        tasks.Inspected ⟨"tasks", "properties.tasks"⟩ (walkStart flow []) (walk, []) name := by
  obtain ⟨tasks, made, checked⟩ : ∃ tasks, make .tasks errands = .ok tasks ∧
      ((tasks.keys.toOption.all (·.all fun key => key.asStr?.all tasks.namesTask) &&
        (tasks.parts.all fun part =>
        part.2.next.all (fun transition => transition.namesTargets &&
          transition.targetNames.all fun target =>
          tasks.hasTask target && target != "plan") && part.2.parts.all fun inner =>
            inner.1 != "with" || inner.2.raw.isMap)) &&
      (((tasks.part? "plan").bind (·.next[0]?)).any (·.targetNames.contains "work") &&
        (tasks.raw.hasField "plan" && tasks.raw.hasField "work"))) = true :=
    exists_of_any (by decide +kernel)
  simp only [Bool.and_eq_true, List.all_eq_true, bne_iff_ne, ne_eq, Bool.or_eq_true] at checked
  obtain ⟨⟨names, parts⟩, listed, plan, work⟩ := checked
  have able : tasks.Inspectable := by
    refine ⟨⟨⟨_, _, _, _, made⟩, forall_hasField names, fun part isPart transition isNext => ?_⟩,
      fun part isPart transition isNext target isTarget => ?_,
        fun part isPart inner isInner isWith => ?_⟩
    · exact ((parts part isPart).1 transition isNext).1
    · exact (((parts part isPart).1 transition isNext).2 target isTarget).1
    · exact ((parts part isPart).2 inner isInner).resolve_left (not_not_intro isWith)
  have first : tasks.Reached "plan" := by
    refine .start plan fun other i lists => ?_
    obtain ⟨-, task, transition, isTask, isNext, isTarget⟩ := lists
    exact (((parts _ (mem_of_part? isTask)).1 transition (List.mem_of_getElem? isNext)).2 _
      isTarget).2 rfl
  have second : tasks.Reached "work" := by
    obtain ⟨transition, isNext, isTarget⟩ := (Option.any_eq_true ..).mp listed
    obtain ⟨task, isTask, isNext⟩ := Option.bind_eq_some_iff.mp isNext
    exact .onward first ⟨plan, task, transition, isTask, isNext,
      List.contains_iff_mem.mp isTarget⟩ work
  exact ⟨tasks, made, able, second, inspections_end able ⟨⟨"tasks", "properties.tasks"⟩, []⟩⟩

/-- A mapping of tasks that says something under each name, without undefined targets, and still is
not inspected. -/
def Resists (given : Value) : Prop := ∃ tasks, make .tasks given = .ok tasks ∧
  (∀ name, tasks.raw.hasField name = true →
    (!Command.isName name && (tasks.raw.field name).truthy) = true) ∧
    (∀ part ∈ tasks.parts, ∀ transition ∈ part.2.next, ∀ target ∈ transition.targetNames,
      tasks.hasTask target = true) ∧
  ∀ told, tasks.inspectContext (some ⟨⟨"tasks", "properties.tasks"⟩, []⟩) ≠ .ok told

theorem resists_of_any {given : Value} (checked : (make .tasks given).toOption.any (fun tasks =>
      (tasks.keys.toOption.all (·.all fun key => key.asStr?.all fun name =>
        !Command.isName name && (tasks.raw.field name).truthy)) &&
      ((tasks.parts.all fun part => part.2.next.all (·.targetNames.all tasks.hasTask)) &&
        (tasks.inspectContext (some ⟨⟨"tasks", "properties.tasks"⟩, []⟩)).toOption.isNone)) =
        true) : Resists given := by
  obtain ⟨tasks, made, checked⟩ := exists_of_any checked
  simp only [Bool.and_eq_true, List.all_eq_true] at checked
  obtain ⟨names, targets, failed⟩ := checked
  refine ⟨tasks, made, forall_hasField names, targets, fun told ended => ?_⟩
  rw [ended] at failed
  cases failed

/-- A name that is no word, items in a list, a target that is a number, and a list in the place of a
transition. -/
theorem inspectContext_ne_ok : Resists (.fields [("a-b", .fields [("action", .str "core.noop")])]) ∧
    Resists (.fields [("a", .fields [("with", .list [.int 1])])]) ∧
    Resists (.fields [("a", .fields [("next", .list [.fields [("do", .int 5)]])])]) ∧
    Resists (.fields [("a", .fields [("next", .list [.list [.str "x"]])])]) := by
  refine ⟨?_, ?_, ?_, ?_⟩
  all_goals exact resists_of_any (by decide +kernel)

end Orchestration.Spec
