import Mathlib.Data.List.Chain
import Mathlib.Data.List.Rotate
import Orchestration.Graph.Cycle
import Orchestration.Proofs.Course.Report
import Orchestration.Proofs.Portrayal

/-!
Ways that come back.

Whether a task is in a cycle is found in two ways: a search through the flow looks for a way back to
the task, and the cycles of the graph are listed one by one. Both find a cycle exactly where there
is a way from the task back to it. So a task that several others lead to opens a route in the graph
if and only if it opens one when the workflow is conducted.
-/

namespace Orchestration

/-! ### Cycles of a graph -/

namespace Graph

variable {g : Graph} {id next start last : String}
  {way rest before ids allowed found later useful : List String} {fuel : Nat}

def Joins (g : Graph) (source target : String) : Prop :=
  ∃ e ∈ g.edges, e.source = source ∧ e.target = target

theorem mem_successors : next ∈ g.successors id ↔ g.Joins id next := by
  simp only [successors, List.mem_eraseDups, List.mem_map, outEdges, mem_grouped, List.mem_filter,
    beq_iff_eq, Joins, and_assoc]

/-- A way from its first task back to it on which no task comes twice. -/
def IsCycle (g : Graph) : List String → Prop
  | [] => False
  | start :: rest => (start :: rest).Nodup ∧ (start :: rest ++ [start]).IsChain g.Joins

theorem IsCycle.rotate {after : List String} (cycle : g.IsCycle (before ++ id :: after)) :
    g.IsCycle (id :: after ++ before) := by
  cases before with
  | nil => simpa using cycle
  | cons start before =>
    obtain ⟨distinct, chain⟩ := cycle
    have turned : (id :: after ++ start :: before).Nodup := List.nodup_append_comm.mp distinct
    have split : (start :: before ++ id :: (after ++ [start])).IsChain g.Joins := by
      simpa using chain
    obtain ⟨first, second⟩ := List.isChain_split.mp split
    have again : (id :: after ++ start :: (before ++ [id])).IsChain g.Joins :=
      List.isChain_split.mpr ⟨second, first⟩
    exact ⟨turned, by simpa using again⟩

theorem IsCycle.transGen (cycle : g.IsCycle way) (there : id ∈ way) :
    Relation.TransGen g.Joins id id := by
  obtain ⟨before, after, rfl⟩ := List.append_of_mem there
  have chain : (id :: (after ++ before ++ [id])).IsChain g.Joins := cycle.rotate.2
  obtain ⟨next, onward, split⟩ :=
    List.exists_cons_of_ne_nil (List.concat_ne_nil id (after ++ before))
  rw [split, List.isChain_cons_cons] at chain
  refine .head' chain.1 (List.relationReflTransGen_of_exists_isChain_cons onward chain.2 ?_)
  simp only [← split, List.getLast_concat]

/-- A way from one task to another can be made shorter until no task comes twice. -/
theorem exists_simple_way (reaches : Relation.ReflTransGen g.Joins start id) :
    ∃ before, (before ++ [id]).Nodup ∧ (before ++ [id]).IsChain g.Joins ∧
      (before ++ [id]).head? = some start := by
  induction reaches with
  | refl => exact ⟨[], by simp⟩
  | @tail id next _ joins ih =>
    obtain ⟨before, distinct, chain, first⟩ := ih
    by_cases known : next ∈ before ++ [id]
    · obtain ⟨front, back, same⟩ := List.append_of_mem known
      rw [same] at distinct chain first
      refine ⟨front, ?_, (List.isChain_split.mp chain).1, ?_⟩
      · exact distinct.sublist (List.Sublist.append_left (by simp) front)
      · cases front <;> simpa using first
    · refine ⟨before ++ [id], ?_, ?_, ?_⟩
      · exact distinct.append (List.nodup_singleton _) (List.disjoint_singleton.mpr known)
      · simpa using ⟨chain, joins⟩
      · rw [List.head?_append, first, Option.some_or]

theorem exists_cycle (returns : Relation.TransGen g.Joins id id) :
    ∃ rest, g.IsCycle (id :: rest) := by
  obtain ⟨last, reaches, joins⟩ := Relation.TransGen.tail'_iff.mp returns
  obtain ⟨before, distinct, chain, first⟩ := exists_simple_way reaches
  obtain ⟨rest, same⟩ : ∃ rest, before ++ [last] = id :: rest := by
    cases before with
    | nil => exact ⟨[], by simpa using first⟩
    | cons head tail => exact ⟨tail ++ [last], by simpa using first⟩
  refine ⟨rest, same ▸ distinct, ?_⟩
  rw [← same]
  simpa using ⟨chain, joins⟩

/-! ### The cycles that are listed -/

theorem subset_reaching (fuel : Nat) (found : List String) :
    found ⊆ g.reaching allowed fuel found := by
  induction fuel generalizing found with
  | zero => exact List.Subset.refl _
  | succ fuel ih =>
    rw [reaching]
    split
    · exact List.Subset.refl _
    · exact List.Subset.trans (List.subset_append_left ..) (ih _)

/-- The tasks that are found are all from which what was to be reached can be reached: after so many
rounds nothing is left that leads to one of them. -/
theorem mem_reaching (enough : (allowed.filter fun id => !found.contains id).length < fuel)
    (isAllowed : id ∈ allowed) (joins : g.Joins id next)
    (there : next ∈ g.reaching allowed fuel found) : id ∈ g.reaching allowed fuel found := by
  fun_induction reaching g allowed fuel found with
  | case1 => cases enough
  | case2 fuel found more nothing =>
    by_contra new
    have leads : id ∈ more := by
      refine List.mem_filter.mpr ⟨isAllowed, ?_⟩
      simpa [new] using ⟨next, mem_successors.mpr joins, there⟩
    rw [List.isEmpty_iff.mp nothing] at leads
    cases leads
  | case3 fuel found more some ih =>
    refine ih ?_ there
    have fewer : (allowed.filter fun id => !(found ++ more).contains id) =
        (allowed.filter fun id => !found.contains id).filter fun id => !more.contains id := by
      rw [List.filter_filter]
      refine List.filter_congr fun id _ => ?_
      simp [Bool.and_comm]
    obtain ⟨one, isMore⟩ := List.exists_mem_of_ne_nil more (by simpa using some)
    have isNew := List.mem_filter.mp isMore
    have shrinks : (allowed.filter fun id => !(found ++ more).contains id).length <
        (allowed.filter fun id => !found.contains id).length := by
      rw [fewer]
      refine List.length_filter_lt_length_iff_exists.mpr
        ⟨one, List.mem_filter.mpr ⟨isNew.1, ?_⟩, by simpa using isMore⟩
      exact (Bool.and_eq_true_iff.mp isNew.2).1
    omega

/-- What is listed from a way on is a cycle that starts with it. -/
theorem isCycle_of_mem_close (distinct : (last :: before).Nodup)
    (chain : (last :: before).reverse.IsChain g.Joins)
    (first : (last :: before).getLast? = some start)
    (listed : way ∈ g.close start useful fuel (last :: before)) : g.IsCycle way := by
  induction fuel generalizing last before with
  | zero => cases listed
  | succ fuel ih =>
    obtain ⟨next, isNext, further⟩ := List.mem_flatMap.mp listed
    have joins := mem_successors.mp isNext
    have onward : ((next :: last :: before).reverse).IsChain g.Joins := by
      rw [List.reverse_cons]
      simpa using ⟨by simpa using chain, joins⟩
    split at further
    case isTrue back =>
      obtain rfl : next = start := by simpa using back
      cases List.mem_singleton.mp further
      have begins : (last :: before).reverse.head? = some next := by
        rw [List.head?_reverse]
        exact first
      obtain ⟨rest, same⟩ := List.head?_eq_some_iff.mp begins
      rw [List.reverse_cons, same] at onward
      rw [same]
      exact ⟨same ▸ List.nodup_reverse.mpr distinct, onward⟩
    case isFalse =>
      split at further
      case isTrue new =>
        have unknown : next ∉ last :: before := by simpa using (Bool.and_eq_true_iff.mp new).2
        exact ih (List.nodup_cons.mpr ⟨unknown, distinct⟩) onward (by simpa using first) further
      case isFalse => cases further

/-- A cycle that starts with a way through tasks from which its start can be reached is listed. -/
theorem mem_close (distinct : ((last :: before).reverse ++ rest).Nodup)
    (chain : ((last :: before).reverse ++ rest ++ [start]).IsChain g.Joins)
    (inWay : start ∈ last :: before) (isUseful : rest ⊆ useful) (enough : rest.length < fuel) :
    (last :: before).reverse ++ rest ∈ g.close start useful fuel (last :: before) := by
  induction rest generalizing last before fuel with
  | nil =>
    obtain ⟨fuel, rfl⟩ := Nat.exists_eq_add_one_of_ne_zero (Nat.ne_zero_of_lt enough)
    have joins : g.Joins last start := by
      simp only [List.append_nil, List.reverse_cons, List.append_assoc,
        List.singleton_append] at chain
      exact (List.isChain_append_cons_cons.mp chain).2.1
    refine List.mem_flatMap.mpr ⟨start, mem_successors.mpr joins, ?_⟩
    simp
  | cons next rest ih =>
    obtain ⟨fuel, rfl⟩ := Nat.exists_eq_add_one_of_ne_zero (Nat.ne_zero_of_lt enough)
    have joins : g.Joins last next := by
      simp only [List.reverse_cons, List.append_assoc, List.cons_append] at chain
      exact (List.isChain_append_cons_cons.mp chain).2.1
    have same : (last :: before).reverse ++ next :: rest = (next :: last :: before).reverse ++
        rest := by simp
    rw [same] at distinct chain ⊢
    have apart : next ∉ last :: before := by
      have := (List.nodup_append.mp distinct).1
      rw [List.nodup_reverse] at this
      exact (List.nodup_cons.mp this).1
    have notBack : next ≠ start := fun back => apart (back ▸ inWay)
    refine List.mem_flatMap.mpr ⟨next, mem_successors.mpr joins, ?_⟩
    rw [if_neg (by simpa using notBack),
      if_pos (by simpa using ⟨isUseful (List.mem_cons_self ..), by simpa using apart⟩)]
    exact ih distinct chain (List.mem_cons_of_mem _ inWay)
      (fun _ there => isUseful (List.mem_cons_of_mem _ there)) (by simpa using enough)

theorem mem_cyclesFrom (cycle : g.IsCycle (start :: rest)) (within : rest ⊆ later) :
    start :: rest ∈ g.cyclesFrom start later := by
  obtain ⟨distinct, chain⟩ := cycle
  have enough : ((start :: later).filter fun id => !([start].contains id)).length <
      later.length + 1 := by
    rw [List.filter_cons_of_neg (by simp)]
    exact Nat.lt_succ_of_le (List.length_filter_le _ _)
  have reached : start ∈ g.reaching (start :: later) (later.length + 1) [start] :=
    subset_reaching _ _ (List.mem_singleton_self _)
  have isUseful : rest ⊆ g.reaching (start :: later) (later.length + 1) [start] := by
    have back := List.IsChain.iff_mem.mp chain.tail
    refine back.backwards_concat_induction _ rest ?_ reached
    rintro id next ⟨there, -, joins⟩ found
    refine mem_reaching enough ?_ joins found
    rcases List.mem_append.mp there with onWay | isStart
    · exact List.mem_cons_of_mem _ (within onWay)
    · exact List.mem_singleton.mp isStart ▸ List.mem_cons_self ..
  have shorter : rest.length < later.length + 1 :=
    Nat.lt_succ_of_le ((List.nodup_cons.mp distinct).2.subperm within).length_le
  have listed : [start].reverse ++ rest ∈ g.cyclesFrom start later :=
    mem_close distinct chain (List.mem_singleton_self _) isUseful shorter
  exact listed

theorem exists_mem_cyclesAmong (cycle : g.IsCycle way) (within : way ⊆ ids) :
    ∃ one ∈ g.cyclesAmong ids, way ~r one := by
  induction ids with
  | nil =>
    cases way with
    | nil => cases cycle
    | cons => cases List.eq_nil_of_subset_nil within
  | cons start later ih =>
    by_cases there : start ∈ way
    · obtain ⟨before, after, rfl⟩ := List.append_of_mem there
      have turned := cycle.rotate
      have others : after ++ before ⊆ later := by
        intro id onWay
        have known : id ∈ before ++ start :: after := by
          rcases List.mem_append.mp onWay with later | earlier
          · exact List.mem_append_right _ (List.mem_cons_of_mem _ later)
          · exact List.mem_append_left _ earlier
        refine (List.mem_cons.mp (within known)).resolve_left ?_
        rintro rfl
        exact (List.nodup_cons.mp turned.1).1 onWay
      exact ⟨_, List.mem_append_left _ (mem_cyclesFrom turned others), List.isRotated_append⟩
    · have others : way ⊆ later := fun id onWay =>
        (List.mem_cons.mp (within onWay)).resolve_left fun same => there (same ▸ onWay)
      obtain ⟨one, listed, same⟩ := ih others
      exact ⟨one, List.mem_append_right _ listed, same⟩

theorem isCycle_of_mem_cyclesAmong (listed : way ∈ g.cyclesAmong ids) : g.IsCycle way := by
  induction ids with
  | nil => cases listed
  | cons start later ih =>
    rcases List.mem_append.mp listed with first | others
    · exact isCycle_of_mem_close (List.nodup_singleton _) (.singleton _) rfl first
    · exact ih others

/-- What is listed are the cycles of a graph, and all of them: each cycle from one of its tasks
on. -/
theorem mem_cycles (known : ∀ e ∈ g.edges, e.source ∈ g.ids) :
    (∀ way ∈ g.cycles, g.IsCycle way) ∧ ∀ way, g.IsCycle way → ∃ one ∈ g.cycles, way ~r one := by
  refine ⟨fun way listed => isCycle_of_mem_cyclesAmong listed, fun way cycle => ?_⟩
  refine exists_mem_cyclesAmong cycle fun id onWay => ?_
  obtain ⟨next, ⟨e, mem, rfl, -⟩, -⟩ := Relation.TransGen.head'_iff.mp (cycle.transGen onWay)
  exact known e mem

/-- A cycle through a task is listed if and only if there is a way from the task back to it. -/
theorem cyclesThrough_ne_nil (known : ∀ e ∈ g.edges, e.source ∈ g.ids) :
    g.cyclesThrough id ≠ [] ↔ Relation.TransGen g.Joins id id := by
  obtain ⟨sound, complete⟩ := mem_cycles known
  rw [cyclesThrough, Ne, List.filter_eq_nil_iff]
  constructor
  · intro some
    push Not at some
    obtain ⟨way, listed, there⟩ := some
    exact (sound way listed).transGen (by simpa using there)
  · intro returns none
    obtain ⟨rest, cycle⟩ := exists_cycle returns
    obtain ⟨one, listed, same⟩ := complete _ cycle
    refine none one listed ?_
    simpa using same.mem_iff.mp (List.mem_cons_self ..)

end Graph

/-! ### Cycles of a flow -/

namespace Flow

variable {flow : Flow} {g : Graph} {name next : String}

theorem transGen_of_inCycle (found : flow.inCycle name = .ok true) :
    Relation.TransGen flow.Leads name name := by
  obtain ⟨step, isStep, found⟩ := bind_eq_ok.mp found
  obtain ⟨last, done, same⟩ := bind_eq_ok.mp found
  have start : ∀ next, .inl next ∈ step.onward → Relation.TransGen flow.Leads name next := by
    intro next waits
    obtain ⟨link, isLink, rfl⟩ := Step.mem_onward.mp waits
    exact .single (leads_of_mem isStep isLink)
  -- What waits can be reached, so that a task which is the one to come back to is reached again.
  have drained :=
    Worklist.run_drain
      (fun state waiting => (state.found = true → Relation.TransGen flow.Leads name name) ∧
    ∀ next, .inl next ∈ waiting → Relation.TransGen flow.Leads name next) ?_
    ⟨fun none => absurd none Bool.false_ne_true, start⟩ done
  · exact drained.1 (Except.ok.inj same)
  rintro state target rest state' more ⟨before, waits⟩ visited
  have others (next : String) (later : .inl next ∈ rest) : Relation.TransGen flow.Leads name next :=
    waits next (List.mem_cons_of_mem _ later)
  unfold seekReturn at visited
  split at visited
  · cases Except.ok.inj visited
    exact ⟨before, by simpa using others⟩
  · cases target with
    | inr odd => cases visited
    | inl next =>
      have reached := waits next (List.mem_cons_self ..)
      dsimp only at visited
      split at visited
      case isTrue back =>
        cases Except.ok.inj visited
        exact ⟨fun _ => eq_of_beq back ▸ reached, by simpa using others⟩
      case isFalse =>
        split at visited
        · cases Except.ok.inj visited
          exact ⟨before, by simpa using others⟩
        · obtain ⟨step, isStep, visited⟩ := bind_eq_ok.mp visited
          cases Except.ok.inj visited
          refine ⟨before, fun one waits => (List.mem_append.mp waits).elim (others one)
            fun isNew => ?_⟩
          obtain ⟨link, isLink, rfl⟩ := Step.mem_onward.mp isNew
          exact reached.tail (leads_of_mem isStep isLink)

/-- It can be told of a task whether there is a way from it back to itself. -/
theorem inCycle_iff (closed : flow.Closed) (reached : flow.Reaches name) :
    ∃ cyclic, flow.inCycle name = .ok cyclic ∧
      (cyclic = true ↔ Relation.TransGen flow.Leads name name) := by
  obtain ⟨cyclic, told, complete⟩ := exists_inCycle closed reached
  exact ⟨cyclic, told, fun isCyclic => transGen_of_inCycle (isCyclic ▸ told), complete⟩

theorem Reaches.transGen (reached : flow.Reaches name)
    (way : Relation.TransGen flow.Leads name next) : flow.Reaches next := by
  induction way with
  | single leads => exact .onward reached leads
  | tail _ leads ih => exact .onward ih leads

theorem Portrays.joins_iff (portrays : flow.Portrays g) :
    g.Joins name next ↔ flow.Reaches name ∧ flow.Leads name next ∧ next ≠ Command.retry.name := by
  constructor
  · rintro ⟨e, mem, rfl, rfl⟩
    obtain ⟨link, reached, goes, other, target, -⟩ := portrays.edges e mem
    exact ⟨reached, ⟨link, goes, target.symm⟩, target ▸ other⟩
  · rintro ⟨reached, ⟨link, goes, rfl⟩, other⟩
    have one := portrays.links name link reached goes other
    obtain ⟨e, mem, ends⟩ := List.countP_pos_iff.mp (one ▸ Nat.one_pos)
    simp only [Bool.and_eq_true, beq_iff_eq] at ends
    exact ⟨e, mem, ends.1⟩

theorem Portrays.returns_iff (portrays : flow.Portrays g) (there : name ∈ g.ids) :
    Relation.TransGen g.Joins name name ↔ Relation.TransGen flow.Leads name name := by
  obtain ⟨reached, other⟩ := (portrays.tasks.2 name).mp there
  have drawn : ∀ next, Relation.TransGen flow.Leads name next → next ≠ Command.retry.name →
      Relation.TransGen g.Joins name next := by
    intro next way
    induction way with
    | single leads => exact fun other => .single (portrays.joins_iff.mpr ⟨reached, leads, other⟩)
    | @tail middle next way leads ih =>
      intro other
      obtain ⟨link, goes, -⟩ := id leads
      exact (ih goes.notRetry).tail (portrays.joins_iff.mpr ⟨reached.transGen way, leads, other⟩)
  have onward : g.Joins ≤ flow.Leads := fun _ _ joins => (portrays.joins_iff.mp joins).2.1
  exact ⟨fun way => Relation.TransGen.mono onward _ _ way, fun way => drawn name way other⟩

theorem Portrays.cyclesThrough_iff (portrays : flow.Portrays g) (there : name ∈ g.ids) :
    g.cyclesThrough name ≠ [] ↔ Relation.TransGen flow.Leads name name := by
  rw [Graph.cyclesThrough_ne_nil, portrays.returns_iff there]
  intro e mem
  obtain ⟨link, reached, goes, -⟩ := portrays.edges e mem
  exact (portrays.tasks.2 _).mpr ⟨reached, goes.notRetry⟩

end Flow

namespace Conductor

variable {c : Conductor} {tasks : Spec} {flow : Flow} {g : Graph} {edge : Edge} {route : Nat}
  {old : List String} {split : Bool}

/-- A transition opens a route if several ways lead to its target, and no cycle goes through it. -/
theorem result_routeFor (mapped : c.spec.taskMapping = .ok tasks)
    (described : tasks.flow = .ok flow) (known : c.graph? = some g)
    (splits : flow.isSplit edge.target = .ok split) (there : c.state.routes[route]? = some old)
    (new : State.transitionKey edge.source edge.key ∉ old) :
    Conducting.result (routeFor edge route) c =
      if split && !g.inCycle edge.target then
        (.ok c.state.routes.length, { c with state := { c.state with
          routes := c.state.routes ++ [old ++ [State.transitionKey edge.source edge.key]] } })
      else (.ok route, c) := by
  have isTasks : Conducting.result Conductor.tasks c = (.ok tasks, c) := by
    unfold Conductor.tasks
    rw [Conducting.result_bind_of_ok (Conducting.result_get c), Conducting.result_ofExcept, mapped]
  unfold routeFor
  rw [Conducting.result_bind_of_ok isTasks, described,
    Conducting.result_bind_of_ok (Conducting.result_ofExcept _ _), splits,
    Conducting.result_bind_of_ok (Conducting.result_ofExcept _ _), Conducting.result_bind_of_ok
    (result_graph known)]
  have opens : (!split || g.inCycle edge.target) = !(split && !g.inCycle edge.target) := by simp
  rw [opens]
  cases split && !g.inCycle edge.target with
  | false => rfl
  | true =>
    simp only [Bool.not_true, Bool.false_eq_true, if_false, if_true]
    rw [Conducting.result_bind_of_ok (Conducting.result_getState c), there]
    dsimp only
    rw [if_neg (by simpa using new)]
    rw [Conducting.result_bind_of_ok (Conducting.result_modifyState _ c)]
    rw [Conducting.result_bind_of_ok (Conducting.result_getState _), Conducting.result_pure,
      List.length_append]
    rfl

end Conductor

/-! ### Both tests -/

theorem Graph.inCycle_iff {g : Graph} {id : String} :
    g.inCycle id = true ↔ g.cyclesThrough id ≠ [] := by
  rw [inCycle, cyclesThrough, Ne, List.filter_eq_nil_iff, List.any_eq_true]
  push Not
  rfl

/-- What is told of a task by the search through the flow of a workflow and by the cycles of its
graph, and what those who ask them make of it. -/
structure Agreement (workflow : Spec) (flow : Flow) (g : Graph) (id : String)
    (cyclic opens : Bool) : Prop where
  searched : flow.inCycle id = .ok cyclic
  returns : cyclic = true ↔ Relation.TransGen flow.Leads id id
  listed : cyclic = true ↔ g.cyclesThrough id ≠ []
  decided : ∃ split, flow.isSplit id = .ok split ∧ opens = (split && !cyclic)
  /-- A task that opens a route is drawn as one of the splits on the way through it. -/
  drawn : ∃ step, flow.step id = .ok step ∧ ∀ c passed, flow.composeStep c (id, passed) =
    let passed := if opens then passed ++ [id] else passed
    flow.drawLinks id passed
    { c with graph := c.graph.addTask id (Flow.attributesOf step passed) } step.links
  /-- A transition to a task that opens a route goes on on a new one, and any other on its own. -/
  conducted : ∀ (c : Conductor) edge route old, c.spec = workflow → c.graph? = some g →
    edge.target = id →
    c.state.routes[route]? = some old → State.transitionKey edge.source edge.key ∉ old →
    Conducting.result (Conductor.routeFor edge route) c =
      if opens then
        (.ok c.state.routes.length, { c with state := { c.state with
          routes := c.state.routes ++ [old ++ [State.transitionKey edge.source edge.key]] } })
      else (.ok route, c)

namespace Spec

variable {workflow tasks : Spec} {flow : Flow}

/-- Whether there is a way from a task back to it is told alike by the search through the flow and
by the cycles of the graph, and so a task opens a route in the graph if and only if it opens one
when the workflow is conducted. -/
theorem cycle_tests_agree (native : workflow.kind.catalog = .native)
    (mapped : workflow.property "tasks" = .ok (.spec tasks)) (described : tasks.flow = .ok flow)
    (plain : flow.Plain) (unreserved : ∀ name, tasks.raw.hasField name = true →
      Command.isName name = false) (defined : ∀ step ∈ flow.steps, ∀ branch ∈ step.branches,
      ∀ target ∈ branch.targets, flow.has target = true) : ∃ g, workflow.compose = .ok g ∧
        ∀ id ∈ g.ids, ∃ cyclic opens, Agreement workflow flow g id cyclic opens := by
  have closed := Flow.closed_of_targets plain defined
  obtain ⟨g, composed, portrays⟩ :=
    Flow.exists_portrait closed (ne_retry_of_start described unreserved)
  refine ⟨g, compose_of_flow native mapped described composed, fun id there => ?_⟩
  obtain ⟨reached, -⟩ := (portrays.tasks.2 id).mp there
  obtain ⟨step, found, isPlain⟩ := closed id reached
  obtain ⟨cyclic, searched, returns⟩ := Flow.inCycle_iff closed reached
  have listed : cyclic = true ↔ g.cyclesThrough id ≠ [] :=
    returns.trans (portrays.cyclesThrough_iff there).symm
  have alike : g.inCycle id = cyclic := Bool.eq_iff_iff.mpr (Graph.inCycle_iff.trans listed.symm)
  have splits : flow.isSplit id = .ok (!step.isJoin && (flow.prevTasks id).length > 1) :=
    bind_eq_ok.mpr ⟨step.isJoin, bind_eq_ok.mpr ⟨step, found, rfl⟩, rfl⟩
  have drawn := Flow.composeStep_eq found isPlain splits searched
  refine ⟨cyclic, _, searched, returns, listed, ⟨_, splits, rfl⟩, ⟨step, found, drawn⟩, ?_⟩
  rintro c edge route old rfl known rfl onRoute new
  have isMapping : c.spec.taskMapping = .ok tasks := bind_eq_ok.mpr ⟨_, mapped, rfl⟩
  rw [← alike]
  exact Conductor.result_routeFor isMapping described known splits onRoute new

end Spec

namespace Review

/-- A draft is reached in two ways and is in a cycle, so that it opens no route. -/
theorem cycle_tests_agree_review : ∃ spec tasks flow, Rounds spec tasks flow ∧
    ∃ g, spec.compose = .ok g ∧ "draft" ∈ g.ids ∧ Agreement spec flow g "draft" true false := by
  obtain ⟨spec, tasks, flow, rounds⟩ := exists_rounds
  obtain ⟨g, composed, agree⟩ := Spec.cycle_tests_agree rounds.native rounds.mapped
    rounds.described rounds.plain rounds.unreserved rounds.defined
  obtain ⟨h, drawn, portrays⟩ :=
    Flow.exists_portrait (Flow.closed_of_targets rounds.plain rounds.defined)
    (Spec.ne_retry_of_start rounds.described rounds.unreserved)
  cases composed.symm.trans
    (Spec.compose_of_flow rounds.native rounds.mapped rounds.described drawn)
  have there : "draft" ∈ g.ids := (portrays.tasks.2 _).mpr
    ⟨.onward (.start rounds.first) rounds.begins, by decide⟩
  obtain ⟨cyclic, opens, agreement⟩ := agree _ there
  obtain rfl : cyclic = true := agreement.returns.mpr (.tail (.single rounds.onward) rounds.back)
  obtain ⟨split, -, rfl⟩ := agreement.decided
  rw [Bool.not_true, Bool.and_false] at agreement
  exact ⟨spec, tasks, flow, rounds, g, composed, there, agreement⟩

end Review

end Orchestration
