import Mathlib.Data.List.Pairwise
import Orchestration.Proofs.Redrawing
import Orchestration.Proofs.Walking
import Orchestration.Spec.Semantics
import Orchestration.Task.Basic

/-!
The graph of a flow shows the flow as it is.

Its tasks are those that can be reached, its edges are the links between them, each of them drawn
once, its roots are the tasks with which the flow starts, and its barriers are the joins. However
many cycles there are, the graph is drawn: a task that is in a cycle is gone on to once, so that no
way that is followed comes to a task twice.
-/

namespace Orchestration

/-! ### Barriers -/

namespace Entries

/-- What some attributes say of a barrier, on their own and added to others. -/
structure Tells (attributes : Entries) (barrier : Option Value) : Prop where
  alone : getStr? attributes "barrier" = barrier
  added : ∀ entries, getStr? (insertAll entries attributes) "barrier" = barrier.or
    (getStr? entries "barrier")

theorem tells_nil : Tells [] none := ⟨rfl, fun _ => rfl⟩

theorem tells_other {name : String} (other : "barrier" ≠ name) (v : Value) :
    Tells [(.str name, v)] none where
  alone := getStr?_insertStr_of_ne other [] v
  added entries := getStr?_insertStr_of_ne other entries v

theorem Tells.append {attributes more : Entries} {barrier : Option Value}
    (tells : Tells attributes barrier) (silent : Tells more none) :
    Tells (attributes ++ more) barrier where
  alone := by
    have split := tells.alone
    have silence := silent.alone
    simp only [getStr?, get?] at split silence ⊢
    rw [List.find?_append, Option.map_or, split, silence, Option.or_none]
  added entries := by
    rw [insertAll, List.foldl_append]
    exact (silent.added _).trans (tells.added entries)

theorem tells_attributesOf (step : Step) (splits : List String) :
    Tells (Flow.attributesOf step splits)
      (if step.isJoin then some (Flow.barrierOf step.join) else none) := by
  unfold Flow.attributesOf
  refine Tells.append (Tells.append ?_ ?_) ?_
  · split
    · exact ⟨getStr?_insertStr_self [] "barrier" _,
        fun entries => getStr?_insertStr_self entries "barrier" _⟩
    · exact tells_nil
  · split
    · exact tells_nil
    · exact tells_other (by decide) _
  · split
    · exact tells_other (by decide) _
    · exact tells_nil

end Entries

def Link.attributes (link : Link) : Entries :=
  [(.str "criteria", Flow.criteria link.condition), (.str "ref", .int link.branch)]

theorem Link.insertAll_attributes (link : Link) :
    Entries.insertAll link.attributes link.attributes = link.attributes := by
  simp [Link.attributes, Entries.insertAll, Entries.insert, Value.str_beq]

theorem Edge.get_ref {e : Edge} {link : Link} (same : e.attributes = link.attributes) :
    e.get "ref" = .int link.branch := by
  simp [Edge.get, same, Link.attributes, Entries.getStr?, Entries.get?, Value.str_beq]

namespace Graph

variable {g h : Graph} {id other source target : String} {attributes : Entries}
  {barrier : Option Value}

def barrierAt? (g : Graph) (id : String) : Option Value :=
  (g.vertex? id).bind fun v => Entries.getStr? v.attributes "barrier"

theorem barrierAt?_setAttributes (tells : Entries.Tells attributes barrier) (there : id ∈ g.ids)
    (other : String) : (g.setAttributes id attributes).barrierAt? other =
      if other = id then barrier.or (g.barrierAt? id) else g.barrierAt? other := by
  have found : (g.setAttributes id attributes).vertex? other = (g.vertex? other).map fun v =>
      if v.id == id then { v with attributes := Entries.insertAll v.attributes attributes }
        else v := by
    unfold vertex? setAttributes
    rw [List.find?_map]
    congr 2
    funext v
    simp only [Function.comp]
    split <;> rfl
  unfold barrierAt?
  rw [found]
  cases here : g.vertex? other with
  | none =>
    have apart : other ≠ id := by
      rintro rfl
      obtain ⟨v, mem, same⟩ := List.mem_map.mp there
      simpa [same] using List.find?_eq_none.mp here v mem
    rw [if_neg apart]
    rfl
  | some v =>
    have same : v.id = other := by simpa using List.find?_some here
    by_cases isThis : other = id
    · subst isThis
      rw [if_pos rfl, here]
      simp only [same, beq_self_eq_true, if_true, Option.map_some, Option.bind_some]
      exact tells.added v.attributes
    · rw [if_neg isThis]
      simp [same, isThis]

theorem barrierAt?_addTask (tells : Entries.Tells attributes barrier) (other : String) :
    (g.addTask id attributes).barrierAt? other =
      if other = id then barrier.or (g.barrierAt? id) else g.barrierAt? other := by
  by_cases there : g.hasTask id = true
  · rw [addTask, if_pos there]
    exact barrierAt?_setAttributes tells (hasTask_iff.mp there) other
  · rw [addTask, if_neg there]
    unfold barrierAt? vertex?
    rw [List.find?_append]
    by_cases isThis : other = id
    · subst isThis
      have absent : g.vertices.find? (·.id == other) = none :=
        List.find?_eq_none.mpr fun v mem same => there (List.any_eq_true.mpr ⟨v, mem, same⟩)
      simp [absent, tells.alone]
    · rw [if_neg isThis]
      cases g.vertices.find? (·.id == other) with
      | some v => rfl
      | none => simpa using fun same : id = other => absurd same.symm isThis

theorem Drawn.vertex? (drawn : g.Drawn) {v : Vertex} (mem : v ∈ g.vertices) :
    g.vertex? v.id = some v := by
  cases found : g.vertex? v.id with
  | none => simpa using List.find?_eq_none.mp found v mem
  | some w =>
    have same : w.id = v.id := by simpa using List.find?_some found
    exact congrArg some
      (List.inj_on_of_nodup_map drawn.named (List.mem_of_find?_eq_some found) mem same)

structure Extends (g h : Graph) : Prop where
  ids : g.ids ⊆ h.ids
  edges : g.edges ⊆ h.edges
  barriers : ∀ id b, g.barrierAt? id = some b → h.barrierAt? id = some b

theorem Extends.refl (g : Graph) : g.Extends g :=
  ⟨List.Subset.refl _, List.Subset.refl _, fun _ _ there => there⟩

theorem Extends.trans {k : Graph} (first : g.Extends h) (second : h.Extends k) : g.Extends k :=
  ⟨List.Subset.trans first.ids second.ids, List.Subset.trans first.edges second.edges,
    fun id b there => second.barriers id b (first.barriers id b there)⟩

def Shows (g : Graph) (source : String) (link : Link) : Prop :=
  ∃ e ∈ g.edges, e.source = source ∧ e.target = link.task ∧ e.attributes = link.attributes

theorem Shows.extend {link : Link} (shows : g.Shows source link) (more : g.Extends h) :
    h.Shows source link := by
  obtain ⟨e, mem, same⟩ := shows
  exact ⟨e, more.edges mem, same⟩

theorem edges_addTask (g : Graph) (id : String) (attributes : Entries) :
    (g.addTask id attributes).edges = g.edges := by
  unfold addTask
  split <;> rfl

theorem mem_ids_of_addTask (mem : other ∈ (g.addTask id attributes).ids) :
    other ∈ g.ids ∨ other = id := by
  unfold addTask at mem
  split at mem
  · rw [ids_setAttributes] at mem
    exact .inl mem
  · simpa [ids] using mem

theorem mem_between {e : Edge} :
    e ∈ g.between source target ↔ e ∈ g.edges ∧ e.source = source ∧ e.target = target := by
  simp [between]

theorem mem_transitions {link : Link} {e : Edge} :
    e ∈ g.transitions source target [("criteria", Flow.criteria link.condition),
      ("ref", .int link.branch)] ↔ (e ∈ g.edges ∧ e.source = source ∧ e.target = target) ∧
      (e.get "ref" == .int link.branch) = true := by
  simp [transitions, relevant, Edge.agrees, mem_between]

/-- Asked for by several attributes, the edges that agree with all of them are found only where no
edge agrees with all but the first alone. -/
theorem transitions_eq_iff {first : String × Value} {rest : List (String × Value)} :
    g.transitions source target (first :: rest) = (g.between source target).filter
      ((first :: rest).all ·.agrees) ↔ rest = [] ∨ ∀ e ∈ g.between source target,
      rest.all e.agrees = true → e.agrees first = true := by
  cases rest with
  | nil => simp [transitions, relevant]
  | cons second others =>
    constructor
    · refine fun same => .inr fun e there agrees => ?_
      have found : e ∈ g.transitions source target (first :: second :: others) :=
        List.mem_filter.mpr ⟨there, agrees⟩
      rw [same] at found
      exact List.all_eq_true.mp (List.mem_filter.mp found).2 first (List.mem_cons_self ..)
    · rintro (none | agree)
      · cases none
      · refine List.filter_congr fun e there => ?_
        have first := agree e there
        rw [relevant, List.all_cons]
        exact (Bool.and_eq_right_iff_imp.mpr first).symm

theorem Drawn.eq_of_parallel (drawn : g.Drawn) {e f : Edge} (first : e ∈ g.edges)
    (second : f ∈ g.edges) (parallel : Parallel e f) : e = f := by
  by_contra different
  have symmetric : Std.Symm fun e f => ¬Parallel e f := ⟨fun e f apart same =>
    apart ⟨same.1.symm, same.2.1.symm, same.2.2.symm⟩⟩
  exact drawn.distinct.forall first second different parallel

/-- Writing anew what an edge tells already changes nothing. -/
theorem updateTransition_same (drawn : g.Drawn) {e : Edge} (mem : e ∈ g.edges)
    (told : Entries.insertAll e.attributes attributes = e.attributes) :
    g.updateTransition e.source e.target e.key attributes = .ok g := by
  obtain ⟨n, key⟩ := (drawn.edges e mem).numbered
  have isNumber : e.key.isNull = false := by rw [key]; rfl
  have itself : (e.key == e.key) = true := by rw [key]; exact int_beq_self n
  have between : e ∈ g.between e.source e.target := mem_between.mpr ⟨mem, rfl, rfl⟩
  have only (f : Edge) (inEdges : f ∈ g.edges) (from' : f.source = e.source)
      (to' : f.target = e.target) (same : (f.key == e.key) = true) : f = e := by
    obtain ⟨m, key'⟩ := (drawn.edges f inEdges).numbered
    rw [key, key'] at same
    have keys : f.key = e.key := by rw [key, key', eq_of_int_beq same]
    exact drawn.eq_of_parallel inEdges mem ⟨from', to', keys⟩
  have alone : (g.between e.source e.target).filter (·.key == e.key) = [e] := by
    have distinct : ((g.between e.source e.target).filter (·.key == e.key)).Nodup := by
      refine List.Nodup.filter _ (List.Nodup.filter _ (drawn.distinct.imp ?_))
      rintro f _ apart rfl
      exact apart ⟨rfl, rfl, rfl⟩
    refine List.perm_singleton.mp
      ((List.perm_ext_iff_of_nodup distinct (List.nodup_singleton e)).mpr fun f => ?_)
    rw [List.mem_filter, mem_between, List.mem_singleton]
    constructor
    · rintro ⟨⟨inEdges, from', to'⟩, same⟩
      exact only f inEdges from' to' same
    · rintro rfl
      exact ⟨⟨mem, rfl, rfl⟩, itself⟩
  have found : g.transition e.source e.target e.key [] = .ok e := by
    rw [transition, isNumber, if_neg Bool.false_ne_true, alone]
    rfl
  refine bind_eq_ok.mpr ⟨e, found, congrArg Except.ok ?_⟩
  have unchanged : (g.edges.map fun f => if f.source == e.source && f.target == e.target &&
    f.key == e.key then
      { f with attributes := Entries.insertAll f.attributes attributes } else f) = g.edges := by
    refine (List.map_congr_left fun f inEdges => ?_).trans (List.map_id _)
    split
    case isTrue same =>
      simp only [Bool.and_eq_true, beq_iff_eq] at same
      rw [only f inEdges same.1.1 same.1.2 same.2, told]
      rfl
    case isFalse => rfl
  unfold addEdge
  dsimp only
  rw [isNumber, if_neg Bool.false_ne_true,
    if_pos (List.any_eq_true.mpr ⟨e, between, itself⟩), unchanged]

/-- The key of a new edge is the number of the edges that are there, if these are numbered. -/
theorem freeKey_length {edges : List Edge}
    (counted : ∀ e ∈ edges, ∃ n : Nat, n < edges.length ∧ e.key = .int n) :
    freeKey edges edges.length edges.length = edges.length ∧
      edges.any (·.key == .int edges.length) = false := by
  have free : edges.any (·.key == .int edges.length) = false := by
    refine List.any_eq_false.mpr fun e mem same => ?_
    obtain ⟨n, below, key⟩ := counted e mem
    rw [key] at same
    have := eq_of_int_beq same
    omega
  refine ⟨?_, free⟩
  cases length : edges.length with
  | zero => rfl
  | succ n =>
    rw [length] at free
    rw [freeKey, free, if_neg Bool.false_ne_true]

theorem between_addTask (g : Graph) (id : String) (attributes : Entries) (source target : String) :
    (g.addTask id attributes).between source target = g.between source target := by
  unfold between
  rw [edges_addTask]

theorem addTransition_new (there : source ∈ g.ids)
    (counted : ∀ e ∈ g.between source target, ∃ n : Nat, n < (g.between source target).length ∧
      e.key = .int n) :
    g.addTransition source target .null attributes = { g.addTask target [] with
      edges := g.edges ++
        [⟨source, target, .int (g.between source target).length, attributes⟩] } := by
  obtain ⟨free, unused⟩ := freeKey_length counted
  unfold addTransition addEdge
  rw [addTask_nil there, between_addTask]
  dsimp only
  rw [free, if_pos (show Value.null.isNull = true from rfl), unused,
    if_neg Bool.false_ne_true, edges_addTask]

end Graph

/-! ### Drawing -/

namespace Flow

open Orchestration.Graph (Extends Shows)

variable {flow : Flow} {name source : String} {g h : Graph} {link : Link} {splits : List String}

/-- A graph as far as it has been drawn: all that is in it belongs to the flow, and nothing is in it
twice. -/
structure Draws (flow : Flow) (g : Graph) : Prop where
  drawn : g.Drawn
  counted : ∀ e ∈ g.edges, ∃ n : Nat, n < (g.between e.source e.target).length ∧ e.key = .int n
  vertices : ∀ id ∈ g.ids, flow.Reaches id ∧ id ≠ Command.retry.name
  edges : ∀ e ∈ g.edges, ∃ link, flow.Goes e.source link ∧ link.task ≠ Command.retry.name ∧
    e.target = link.task ∧ e.attributes = link.attributes
  single : g.edges.Pairwise fun e f =>
    ¬(e.source = f.source ∧ e.target = f.target ∧ e.attributes = f.attributes)
  barriers : ∀ id b, g.barrierAt? id = some b →
    ∃ step, flow.step id = .ok step ∧ step.isJoin = true ∧ b = barrierOf step.join

structure Complete (flow : Flow) (g : Graph) (name : String) : Prop where
  there : name ∈ g.ids
  links : ∀ link, flow.Goes name link → link.task ≠ Command.retry.name → g.Shows name link
  barrier : ∀ step, flow.step name = .ok step → step.isJoin = true →
    g.barrierAt? name = some (barrierOf step.join)

theorem Complete.extend (complete : flow.Complete g name) (more : g.Extends h) :
    flow.Complete h name where
  there := more.ids complete.there
  links link goes other := (complete.links link goes other).extend more
  barrier step found joins := more.barriers name _ (complete.barrier step found joins)

theorem draws_empty : flow.Draws Graph.empty where
  drawn := Graph.drawn_empty
  counted _ mem := by cases mem
  vertices _ mem := by cases mem
  edges _ mem := by cases mem
  single := List.Pairwise.nil
  barriers _ _ there := by cases there

theorem Draws.addTask {attributes : Entries} {barrier : Option Value} (draws : flow.Draws g)
    (reaches : flow.Reaches name) (other : name ≠ Command.retry.name)
    (named : Entries.NamedBy (Graph.attributeNames name) attributes)
    (tells : Entries.Tells attributes barrier)
    (right : ∀ b, barrier = some b → ∃ step, flow.step name = .ok step ∧ step.isJoin = true ∧
      b = barrierOf step.join) :
    flow.Draws (g.addTask name attributes) ∧ g.Extends (g.addTask name attributes) := by
  have edges := Graph.edges_addTask g name attributes
  constructor
  · constructor
    case drawn => exact draws.drawn.addTask named
    case counted =>
      unfold Graph.between
      rw [edges]
      exact draws.counted
    case vertices =>
      intro id mem
      rcases Graph.mem_ids_of_addTask mem with old | rfl
      · exact draws.vertices id old
      · exact ⟨reaches, other⟩
    case edges =>
      rw [edges]
      exact draws.edges
    case single =>
      rw [edges]
      exact draws.single
    case barriers =>
      intro id b found
      rw [Graph.barrierAt?_addTask tells] at found
      split at found
      case isTrue same =>
        subst same
        rcases Option.or_eq_some_iff.mp found with new | ⟨-, old⟩
        · exact right b new
        · exact draws.barriers id b old
      case isFalse => exact draws.barriers id b found
  · refine ⟨Graph.ids_subset_addTask g name attributes, edges ▸ List.Subset.refl _,
      fun id b found => ?_⟩
    rw [Graph.barrierAt?_addTask tells]
    split
    case isTrue same =>
      subst same
      cases new : barrier with
      | none => exact found
      | some b' =>
        obtain ⟨step, isStep, -, rfl⟩ := right b' new
        obtain ⟨step', isStep', -, rfl⟩ := draws.barriers id b found
        cases Except.ok.inj (isStep.symm.trans isStep')
        rfl
    case isFalse => exact found

/-- What is said of an edge follows from its source and the number of its branch. -/
theorem Draws.attributes_eq (draws : flow.Draws g) {e : Edge} (mem : e ∈ g.edges)
    (goes : flow.Goes e.source link) (same : (e.get "ref" == .int link.branch) = true) :
    e.attributes = link.attributes := by
  obtain ⟨other, goes', -, -, attributes⟩ := draws.edges e mem
  rw [Edge.get_ref attributes] at same
  have branch : other.branch = link.branch := Int.ofNat.inj (Graph.eq_of_int_beq same)
  obtain ⟨step, found, isLink⟩ := goes_iff.mp goes
  rw [attributes, Link.attributes, Step.condition_eq (goes'.mem_links found) isLink branch, branch]
  rfl

theorem Draws.addTransition (draws : flow.Draws g) (there : source ∈ g.ids)
    (goes : flow.Goes source link) (other : link.task ≠ Command.retry.name)
    (new : ∀ e ∈ g.edges, e.source = source → e.target = link.task →
      (e.get "ref" == .int link.branch) = false) :
    flow.Draws (g.addTransition source link.task .null link.attributes) ∧
      g.Extends (g.addTransition source link.task .null link.attributes) ∧
      (g.addTransition source link.task .null link.attributes).Shows source link ∧
      ∀ id ∈ (g.addTransition source link.task .null link.attributes).ids, id ∈ g.ids ∨
        id = link.task := by
  have reaches : flow.Reaches link.task := .onward (draws.vertices source there).1 ⟨link, goes, rfl⟩
  have nothing : Entries.NamedBy (Graph.attributeNames link.task) [] :=
    ⟨[], List.nodup_nil, List.nil_subset _, rfl⟩
  obtain ⟨placed, more⟩ := draws.addTask reaches other nothing Entries.tells_nil
    (fun _ found => absurd found.symm (Option.some_ne_none _))
  have drawn : (g.addTransition source link.task .null link.attributes).Drawn :=
    draws.drawn.addTransition goes.notCommand ⟨["criteria", "ref"], by decide, by decide, rfl⟩
  have counted : ∀ e ∈ g.between source link.task,
      ∃ n : Nat, n < (g.between source link.task).length ∧ e.key = .int n := by
    intro e between
    obtain ⟨mem, rfl, same⟩ := Graph.mem_between.mp between
    rw [← same]
    exact draws.counted e mem
  rw [Graph.addTransition_new there counted] at drawn ⊢
  refine ⟨?_, ⟨more.ids, List.subset_append_left .., more.barriers⟩, ?_, ?_⟩
  · constructor
    case drawn => exact drawn
    case vertices => exact placed.vertices
    case barriers => exact placed.barriers
    case counted =>
      intro e mem
      simp only [Graph.between, List.filter_append, List.length_append]
      rcases List.mem_append.mp mem with old | isNew
      · obtain ⟨n, below, key⟩ := draws.counted e old
        exact ⟨n, Nat.lt_add_right _ below, key⟩
      · cases List.mem_singleton.mp isNew
        exact ⟨(g.between source link.task).length, by simp [Graph.between], rfl⟩
    case edges =>
      intro e mem
      rcases List.mem_append.mp mem with old | isNew
      · exact draws.edges e old
      · cases List.mem_singleton.mp isNew
        exact ⟨link, goes, other, rfl, rfl⟩
    case single =>
      refine List.pairwise_append.mpr ⟨draws.single, List.pairwise_singleton _ _,
        fun e old f isNew same => ?_⟩
      cases List.mem_singleton.mp isNew
      have unlike := new e old same.1 same.2.1
      rw [Edge.get_ref same.2.2, Graph.int_beq_self] at unlike
      cases unlike
  · exact ⟨_, List.mem_append_right _ (List.mem_singleton_self _), rfl, rfl, rfl⟩
  · intro id mem
    exact Graph.mem_ids_of_addTask mem

/-- A link can be drawn. If its edge is there already, the graph stays as it is. -/
theorem exists_draw (draws : flow.Draws g) (there : source ∈ g.ids) (goes : flow.Goes source link)
    (other : link.task ≠ Command.retry.name) :
    ∃ h, draw g source link = .ok h ∧ flow.Draws h ∧ g.Extends h ∧ h.Shows source link ∧
      ∀ id ∈ h.ids, id ∈ g.ids ∨ id = link.task := by
  unfold draw
  dsimp only
  cases found : g.transitions source link.task
      [("criteria", criteria link.condition), ("ref", .int link.branch)] with
  | nil =>
    refine ⟨_, rfl, draws.addTransition there goes other fun e mem from' to' => ?_⟩
    by_contra same
    have known := Graph.mem_transitions.mpr ⟨⟨mem, from', to'⟩, by simpa using same⟩
    rw [found] at known
    cases known
  | cons e rest =>
    have known := Graph.mem_transitions.mp (found ▸ List.mem_cons_self ..)
    obtain ⟨⟨mem, from', to'⟩, same⟩ := known
    have alike := draws.attributes_eq mem (from' ▸ goes) same
    have told : Entries.insertAll e.attributes link.attributes = e.attributes := by
      rw [alike]
      exact link.insertAll_attributes
    have kept := Graph.updateTransition_same draws.drawn mem told
    rw [from', to'] at kept
    exact ⟨g, kept, draws, .refl g, ⟨e, mem, from', to', alike⟩, fun id mem => .inl mem⟩

/-! ### Going on -/

/-- What is known of the graph while a flow is walked through: the tasks that have been gone on to
are in it. -/
structure Composes (flow : Flow) (c : Composing) : Prop where
  draws : flow.Draws c.graph
  taken : ∀ one ∈ c.taken, one.1 ∈ c.graph.ids

/-- What there is to be gone on to from a task: targets of the task, among them all tasks that are
new, and none that is in a cycle and is there already. -/
structure Opens (flow : Flow) (source : String) (g h : Graph)
    (more : List (String × List String)) : Prop where
  leads : ∀ one ∈ more, flow.Leads source one.1 ∧ one.1 ≠ Command.retry.name
  fresh : ∀ one ∈ more, Relation.TransGen flow.Leads one.1 one.1 → one.1 ∉ g.ids
  all : ∀ id ∈ h.ids, id ∈ g.ids ∨ id ∈ more.map (·.1)

theorem mem_taken_goOn {c : Composing} {target : String} {one : String × List String}
    (mem : one ∈ (c.goOn target splits).1.taken) : one ∈ c.taken ∨ one.1 = target := by
  unfold Composing.goOn at mem
  dsimp only at mem
  split at mem
  · exact .inl mem
  · rcases List.mem_cons.mp mem with rfl | old
    · exact .inr rfl
    · exact .inl (List.mem_of_mem_filter old)

theorem mem_goOn {c : Composing} {target : String} {one : String × List String}
    (mem : one ∈ (c.goOn target splits).2) : one.1 = target := by
  unfold Composing.goOn at mem
  dsimp only at mem
  split at mem
  · cases mem
  · rw [List.mem_singleton.mp mem]

theorem goOn_new {c : Composing} {target : String} (new : ∀ one ∈ c.taken, one.1 ≠ target) :
    target ∈ (c.goOn target splits).2.map (·.1) := by
  have unknown : c.taken.find? (·.1 == target) = none :=
    List.find?_eq_none.mpr fun one mem same => new one mem (eq_of_beq same)
  simp [Composing.goOn, unknown]

def Composing.way (c : Composing) (isOpen : Bool) (target : String) (splits : List String) :
    Composing × List (String × List String) :=
  if isOpen then c.goOn target splits else (c, [])

theorem graph_way (c : Composing) (isOpen : Bool) (target : String) (splits : List String) :
    (c.way isOpen target splits).1.graph = c.graph := by
  cases isOpen with
  | false => rfl
  | true => exact graph_goOn c target splits

def isOpen (flow : Flow) (g : Graph) (target : String) : Except Error Bool :=
  if g.hasTask target then do .ok (!(← flow.inCycle target)) else .ok true

theorem drawLinks_cons (other : link.task ≠ Command.retry.name) (c : Composing) (rest : List Link) :
    flow.drawLinks source splits c (link :: rest) = (do
      let isOpen ← flow.isOpen c.graph link.task
      let graph ← draw (c.way isOpen link.task splits).1.graph source link
      let next ← flow.drawLinks source splits
          { (c.way isOpen link.task splits).1 with graph := graph } rest
      .ok (next.1, (c.way isOpen link.task splits).2 ++ next.2)) := by
  rw [drawLinks, if_neg (by simpa using other), isOpen]
  by_cases there : c.graph.hasTask link.task = true
  · rw [if_pos there, if_pos there]
    cases flow.inCycle link.task <;> rfl
  · rw [if_neg there, if_neg there]
    rfl

theorem exists_way (closed : flow.Closed) {c : Composing} (composes : flow.Composes c)
    {target : String} (reaches : flow.Reaches target) (splits : List String) : ∃ isOpen : Bool,
    flow.isOpen c.graph target = .ok isOpen ∧
      (∀ one ∈ (c.way isOpen target splits).1.taken, one.1 ∈ c.graph.ids ∨ one.1 = target) ∧
      (∀ one ∈ (c.way isOpen target splits).2,
        one.1 = target ∧ (Relation.TransGen flow.Leads target target → target ∉ c.graph.ids)) ∧
      (target ∉ c.graph.ids → target ∈ (c.way isOpen target splits).2.map (·.1)) := by
  have taken : ∀ one ∈ (c.goOn target splits).1.taken, one.1 ∈ c.graph.ids ∨
      one.1 = target := fun one mem =>
    (mem_taken_goOn mem).imp (composes.taken one) id
  by_cases there : c.graph.hasTask target = true
  · obtain ⟨found, decided, finds⟩ := exists_inCycle closed reaches
    refine ⟨!found, ?_, ?_⟩
    · rw [isOpen, if_pos there, decided]
      rfl
    · have isThere := Graph.hasTask_iff.mp there
      cases found with
      | true =>
        exact ⟨fun one mem => .inl (composes.taken one mem), List.forall_mem_nil _,
          fun new => absurd isThere new⟩
      | false =>
        refine ⟨taken, fun one mem => ⟨mem_goOn mem, fun cycle => ?_⟩,
          fun new => absurd isThere new⟩
        cases finds cycle
  · have new : target ∉ c.graph.ids := fun known => there (Graph.hasTask_iff.mpr known)
    refine ⟨true, if_neg there, taken, fun one mem => ⟨mem_goOn mem, fun _ => new⟩, fun _ => ?_⟩
    exact goOn_new fun one mem same => new (same ▸ composes.taken one mem)

theorem Opens.cons {target : String} {middle : Graph} {ways more : List (String × List String)}
    (rest : flow.Opens source middle h more) (more' : g.Extends middle)
    (leads : flow.Leads source target) (other : target ≠ Command.retry.name)
    (fresh : ∀ one ∈ ways, one.1 = target ∧
      (Relation.TransGen flow.Leads target target → target ∉ g.ids))
      (new : target ∉ g.ids → target ∈ ways.map (·.1))
      (ids : ∀ id ∈ middle.ids, id ∈ g.ids ∨ id = target) :
    flow.Opens source g h (ways ++ more) where
  leads one mem := by
    rcases List.mem_append.mp mem with first | later
    · rw [(fresh one first).1]
      exact ⟨leads, other⟩
    · exact rest.leads one later
  fresh one mem cycle := by
    rcases List.mem_append.mp mem with first | later
    · obtain ⟨same, unseen⟩ := fresh one first
      rw [same] at cycle ⊢
      exact unseen cycle
    · exact fun known => rest.fresh one later cycle (more'.ids known)
  all id mem := by
    rw [List.map_append, List.mem_append]
    by_cases known : id ∈ g.ids
    · exact .inl known
    · refine .inr ((rest.all id mem).imp (fun there => ?_) fun later => later)
      obtain rfl := (ids id there).resolve_left known
      exact new known

theorem exists_drawLinks (closed : flow.Closed) {links : List Link}
    (goes : ∀ link ∈ links, flow.Goes source link) (splits : List String) {c : Composing}
    (composes : flow.Composes c) (there : source ∈ c.graph.ids) :
    ∃ d more, flow.drawLinks source splits c links = .ok (d, more) ∧ flow.Composes d ∧
      c.graph.Extends d.graph ∧
      (∀ link ∈ links, link.task ≠ Command.retry.name → d.graph.Shows source link) ∧
      flow.Opens source c.graph d.graph more := by
  induction links generalizing c with
  | nil =>
    refine ⟨c, [], rfl, composes, .refl _, List.forall_mem_nil _, ?_⟩
    exact ⟨List.forall_mem_nil _, List.forall_mem_nil _, fun _ known => .inl known⟩
  | cons link rest ih =>
    obtain ⟨goesHere, goesOn⟩ := List.forall_mem_cons.mp goes
    obtain ⟨reaches, notRetry⟩ := composes.draws.vertices source there
    by_cases isRetry : link.task = Command.retry.name
    case pos =>
      -- A link to `retry` is no edge. It tells how often the task itself is tried.
      have named : Entries.NamedBy (Graph.attributeNames source)
          [(.str "retry", retryOnce link.condition)] := by
        refine ⟨["retry"], List.nodup_singleton _, ?_, rfl⟩
        simp [Graph.attributeNames, goesHere.notCommand]
      obtain ⟨draws, more⟩ := composes.draws.addTask reaches notRetry named
        (Entries.tells_other (by decide) _)
        (fun _ found => absurd found.symm (Option.some_ne_none _))
      have updated : c.graph.updateTask source [(.str "retry", retryOnce link.condition)] =
          .ok (c.graph.addTask source [(.str "retry", retryOnce link.condition)]) := by
        rw [Graph.updateTask, Graph.addTask, if_pos (Graph.hasTask_iff.mpr there),
          if_pos (Graph.hasTask_iff.mpr there)]
      have ids : (c.graph.addTask source [(.str "retry", retryOnce link.condition)]).ids ⊆
          c.graph.ids := by
        intro id mem
        rcases Graph.mem_ids_of_addTask mem with known | rfl
        · exact known
        · exact there
      obtain ⟨d, ways, drew, composed, extended, shown, opens⟩ := ih goesOn
        (c := { c with graph := c.graph.addTask source [(.str "retry", retryOnce link.condition)] })
        ⟨draws, fun one mem => more.ids (composes.taken one mem)⟩ (more.ids there)
      refine ⟨d, ways, ?_, composed, more.trans extended, ?_, opens.leads, ?_, ?_⟩
      · rw [drawLinks, if_pos (beq_iff_eq.mpr isRetry)]
        exact bind_eq_ok.mpr ⟨_, updated, drew⟩
      · exact List.forall_mem_cons.mpr ⟨fun other => absurd isRetry other, shown⟩
      · exact fun one mem cycle known => opens.fresh one mem cycle (more.ids known)
      · exact fun id mem => (opens.all id mem).imp (fun known => ids known) fun later => later
    case neg =>
      have leads : flow.Leads source link.task := ⟨link, goesHere, rfl⟩
      obtain ⟨isOpen, decided, taken, fresh, new⟩ :=
        exists_way closed composes (.onward reaches leads) splits
      obtain ⟨g, drewOne, draws, more, shownOne, ids⟩ :=
        exists_draw composes.draws there goesHere isRetry
      have target : link.task ∈ g.ids := by
        obtain ⟨e, mem, -, same, -⟩ := shownOne
        exact same ▸ (draws.drawn.edges e mem).target
      obtain ⟨d, ways, drew, composed, extended, shown, opens⟩ := ih goesOn
        (c := { (c.way isOpen link.task splits).1 with graph := g })
        ⟨draws, fun one mem => (taken one mem).elim (fun known => more.ids known)
          fun same => same ▸ target⟩ (more.ids there)
      refine ⟨d, (c.way isOpen link.task splits).2 ++ ways, ?_, composed,
        more.trans extended, ?_, ?_⟩
      · rw [← graph_way c isOpen link.task splits] at drewOne
        rw [drawLinks_cons isRetry]
        exact bind_eq_ok.mpr ⟨isOpen, decided,
          bind_eq_ok.mpr ⟨g, drewOne, bind_eq_ok.mpr ⟨(d, ways), drew, rfl⟩⟩⟩
      · exact List.forall_mem_cons.mpr ⟨fun _ => shownOne.extend extended, shown⟩
      · exact opens.cons more leads isRetry fresh new ids

/-- A task is drawn with the splits on the way to it, and is one of them itself if it opens a
route. -/
theorem composeStep_eq {step : Step} {split cyclic : Bool} (found : flow.step name = .ok step)
    (plain : step.odd = []) (splits : flow.isSplit name = .ok split)
    (told : flow.inCycle name = .ok cyclic) (c : Composing) (passed : List String) :
    flow.composeStep c (name, passed) =
      let passed := if split && !cyclic then passed ++ [name] else passed
      flow.drawLinks name passed { c with graph := c.graph.addTask name (attributesOf step passed) }
      step.links := by
  unfold composeStep
  dsimp only
  rw [found, splits, told]
  cases split <;> simp [bind, Except.bind, Step.refuseOdd_eq_ok plain]

theorem exists_composeStep (closed : flow.Closed) {c : Composing} (composes : flow.Composes c)
    (reaches : flow.Reaches name) (other : name ≠ Command.retry.name) (splits : List String) :
    ∃ d more, flow.composeStep c (name, splits) = .ok (d, more) ∧ flow.Composes d ∧
      c.graph.Extends d.graph ∧ flow.Complete d.graph name ∧
      (∀ one ∈ more, flow.Leads name one.1 ∧ one.1 ≠ Command.retry.name ∧
        (Relation.TransGen flow.Leads one.1 one.1 → one.1 ∉ name :: c.graph.ids)) ∧
      ∀ id ∈ d.graph.ids, id ∈ c.graph.ids ∨ id = name ∨ id ∈ more.map (·.1) := by
  obtain ⟨step, found, plain⟩ := closed name reaches
  obtain ⟨isBack, decided, -⟩ := exists_inCycle closed reaches
  have split : flow.isSplit name = .ok (!step.isJoin && (flow.prevTasks name).length > 1) :=
    bind_eq_ok.mpr ⟨step.isJoin, bind_eq_ok.mpr ⟨step, found, rfl⟩, rfl⟩
  have right (b : Value)
      (isJoin : (if step.isJoin then some (barrierOf step.join) else none) = some b) :
      ∃ step, flow.step name = .ok step ∧ step.isJoin = true ∧ b = barrierOf step.join := by
    by_cases joins : step.isJoin = true
    · rw [if_pos joins] at isJoin
      exact ⟨step, found, joins, (Option.some.inj isJoin).symm⟩
    · rw [if_neg joins] at isJoin
      cases isJoin
  have rest (splits : List String) : ∃ d more,
      flow.drawLinks name splits
      { c with graph := c.graph.addTask name (attributesOf step splits) } step.links =
        .ok (d, more) ∧ flow.Composes d ∧ c.graph.Extends d.graph ∧ flow.Complete d.graph name ∧
      (∀ one ∈ more, flow.Leads name one.1 ∧ one.1 ≠ Command.retry.name ∧
        (Relation.TransGen flow.Leads one.1 one.1 → one.1 ∉ name :: c.graph.ids)) ∧
      ∀ id ∈ d.graph.ids, id ∈ c.graph.ids ∨ id = name ∨ id ∈ more.map (·.1) := by
    obtain ⟨draws, extended⟩ :=
      composes.draws.addTask reaches other (namedBy_attributesOf found splits)
      (Entries.tells_attributesOf step splits) right
    have there := Graph.mem_ids_addTask c.graph name (attributesOf step splits)
    obtain ⟨d, more, drew, composed, extended', shown, opens⟩ := exists_drawLinks closed
      (fun link mem => goes_iff.mpr ⟨step, found, mem⟩) splits
      (c := { c with graph := c.graph.addTask name (attributesOf step splits) })
      ⟨draws, fun one mem => extended.ids (composes.taken one mem)⟩ there
    refine ⟨d, more, drew, composed, extended.trans extended',
      ⟨extended'.ids there, ?_, ?_⟩, ?_, ?_⟩
    · exact fun link goes other => shown link (goes.mem_links found) other
    · intro step' found' joins
      cases Except.ok.inj (found.symm.trans found')
      refine extended'.barriers name _ ?_
      rw [Graph.barrierAt?_addTask (Entries.tells_attributesOf step splits),
        if_pos rfl, if_pos joins]
      rfl
    · intro one mem
      refine ⟨(opens.leads one mem).1, (opens.leads one mem).2, fun cycle known => ?_⟩
      refine opens.fresh one mem cycle ?_
      rcases List.mem_cons.mp known with same | old
      · exact same ▸ there
      · exact extended.ids old
    · intro id mem
      rcases opens.all id mem with known | later
      · exact (Graph.mem_ids_of_addTask known).imp (fun old => old) .inl
      · exact .inr (.inr later)
  obtain ⟨d, more, drew, holds⟩ := rest _
  exact ⟨d, more, (composeStep_eq found plain split decided c splits).trans drew, holds⟩

structure Covers (flow : Flow) (c : Composing) (waiting : List (String × List String)) : Prop where
  composes : flow.Composes c
  reaches : ∀ one ∈ waiting, flow.Reaches one.1 ∧ one.1 ≠ Command.retry.name
  all : ∀ name, name ∈ flow.startTasks ∨ name ∈ c.graph.ids → flow.Complete c.graph name ∨
    name ∈ waiting.map (·.1)

theorem Covers.visit (closed : flow.Closed) {c d : Composing} {one : String × List String}
    {rest more : List (String × List String)} (covers : flow.Covers c (one :: rest))
    (visited : flow.composeStep c one = .ok (d, more)) : flow.Covers d (rest ++ more) := by
  obtain ⟨reaches, other⟩ := covers.reaches one (List.mem_cons_self ..)
  obtain ⟨d', more', visited', composes, extended, complete, opens, all⟩ :=
    exists_composeStep closed covers.composes reaches other one.2
  cases Except.ok.inj (visited.symm.trans visited')
  refine ⟨composes, fun item mem => ?_, fun name isThere => ?_⟩
  · rcases List.mem_append.mp mem with old | new
    · exact covers.reaches item (List.mem_cons_of_mem _ old)
    · exact ⟨.onward reaches (opens item new).1, (opens item new).2.1⟩
  · have before (old : name ∈ flow.startTasks ∨ name ∈ c.graph.ids) :
        flow.Complete d.graph name ∨ name ∈ (rest ++ more).map (·.1) := by
      rcases covers.all name old with done | waits
      · exact .inl (done.extend extended)
      · rcases List.mem_cons.mp waits with rfl | later
        · exact .inl complete
        · exact .inr (List.map_append ▸ List.mem_append_left _ later)
    rcases isThere with start | known
    · exact before (.inl start)
    · rcases all name known with old | rfl | new
      · exact before (.inr old)
      · exact .inl complete
      · exact .inr (List.map_append ▸ List.mem_append_right _ new)

/-- The graph of a flow is drawn, and nothing is missing in it. -/
theorem exists_compose (closed : flow.Closed)
    (unreserved : ∀ name ∈ flow.startTasks, name ≠ Command.retry.name) :
    ∃ g, flow.compose = .ok g ∧ flow.Draws g ∧
      ∀ name, name ∈ flow.startTasks ∨ name ∈ g.ids → flow.Complete g name := by
  have starts : ∀ one ∈ flow.startTasks.map fun task => (task, ([] : List String)),
      flow.Reaches one.1 ∧ one.1 ≠ Command.retry.name := by
    intro one mem
    obtain ⟨name, isStart, rfl⟩ := List.mem_map.mp mem
    exact ⟨.start isStart, unreserved name isStart⟩
  have composes : flow.Composes ⟨Graph.empty, []⟩ := ⟨draws_empty, List.forall_mem_nil _⟩
  obtain ⟨last, done⟩ : ∃ last, Worklist.run flow.composeStep (flow.rounds + Command.all.length)
      ⟨Graph.empty, []⟩ (flow.startTasks.map fun task => (task, [])) = .ok last := by
    refine Worklist.run_ends flow.Composes
      (fun k c one => (flow.Reaches one.1 ∧ one.1 ≠ Command.retry.name) ∧
        flow.Ahead k c.graph.ids one.1) (flow.steps.length + 1) ?_
        (fun _ _ _ _ waits => waits.2.lt) composes
      (fun one waits => ⟨starts one waits, .start _ _⟩) (by unfold rounds; omega)
    rintro k c ⟨name, splits⟩ composes ⟨⟨reaches, other⟩, ahead⟩
    obtain ⟨d, more, visited, composed, extended, complete, opens, -⟩ :=
      exists_composeStep closed composes reaches other splits
    refine ⟨d, more, visited, composed, fun one mem => ?_,
      fun j one waits => ⟨waits.1, waits.2.mono extended.ids⟩⟩
    obtain ⟨leads, notRetry, fresh⟩ := opens one mem
    exact ⟨⟨.onward reaches leads, notRetry⟩,
      (ahead.onward leads fresh).mono (List.cons_subset.mpr ⟨complete.there, extended.ids⟩)⟩
  have covers : flow.Covers last [] := by
    refine Worklist.run_drain flow.Covers
      (fun _ _ _ _ _ covers visited => covers.visit closed visited) ?_ done
    refine ⟨composes, starts, fun name isThere => .inr ?_⟩
    rcases isThere with start | known
    · exact List.mem_map.mpr ⟨(name, []), List.mem_map_of_mem start, rfl⟩
    · cases known
  refine ⟨last.graph, bind_eq_ok.mpr ⟨last, done, rfl⟩, covers.composes.draws,
    fun name isThere => ?_⟩
  exact (covers.all name isThere).resolve_right List.not_mem_nil

/-! ### The portrait -/

structure Portrays (flow : Flow) (g : Graph) : Prop where
  /-- Each task and each command that can be reached is there once, but for `retry`. -/
  tasks : g.ids.Nodup ∧ ∀ id, id ∈ g.ids ↔ flow.Reaches id ∧ id ≠ Command.retry.name
  /-- Every edge stands for a link. -/
  edges : ∀ e ∈ g.edges, ∃ link, flow.Reaches e.source ∧ flow.Goes e.source link ∧
    link.task ≠ Command.retry.name ∧ e.target = link.task ∧
    e.get "criteria" = criteria link.condition ∧ e.get "ref" = .int link.branch
  /-- Every link, told apart by its target and its branch, has one edge. -/
  links : ∀ name link, flow.Reaches name → flow.Goes name link → link.task ≠ Command.retry.name →
    (g.edges.countP fun e => e.source == name && e.target == link.task &&
      e.get "ref" == .int link.branch) = 1
  roots : ∀ id, id ∈ g.roots.map (·.id) ↔ id ∈ flow.startTasks
  /-- A task waits if and only if it joins. -/
  barriers : ∀ v ∈ g.vertices, ∀ step, flow.step v.id = .ok step →
    Entries.getStr? v.attributes "barrier" = if step.isJoin then some
    (barrierOf step.join) else none

/-- Of things that are apart, one has a property that only things that are the same share. -/
theorem countP_eq_one {α : Type} {p : α → Bool} {same : α → α → Prop} {list : List α}
    (apart : list.Pairwise fun a b => ¬same a b)
    (alike : ∀ a ∈ list, ∀ b ∈ list, p a = true → p b = true → same a b) {a : α} (there : a ∈ list)
    (has : p a = true) : list.countP p = 1 := by
  induction list with
  | nil => cases there
  | cons first rest ih =>
    obtain ⟨fromRest, others⟩ := List.pairwise_cons.mp apart
    rw [List.countP_cons]
    by_cases here : p first = true
    · have none : rest.countP p = 0 := List.countP_eq_zero.mpr fun b later isOne =>
        fromRest b later
          (alike first (List.mem_cons_self ..) b (List.mem_cons_of_mem _ later) here isOne)
      rw [none, if_pos here]
    · have later : a ∈ rest := (List.mem_cons.mp there).resolve_left fun same => here (same ▸ has)
      rw [if_neg here, ih others (fun a isA b isB =>
        alike a (List.mem_cons_of_mem _ isA) b (List.mem_cons_of_mem _ isB)) later]

theorem Draws.countP_eq_one (draws : flow.Draws g) (goes : flow.Goes source link)
    (isShown : g.Shows source link) :
    (g.edges.countP fun e => e.source == source && e.target == link.task &&
      e.get "ref" == .int link.branch) = 1 := by
  have alike : ∀ e ∈ g.edges,
      (e.source == source && e.target == link.task && e.get "ref" == .int link.branch) = true →
      e.source = source ∧ e.target = link.task ∧ e.attributes = link.attributes := by
    intro e inEdges stands
    simp only [Bool.and_eq_true, beq_iff_eq] at stands
    obtain ⟨⟨from', to'⟩, same⟩ := stands
    exact ⟨from', to', draws.attributes_eq inEdges (from' ▸ goes) same⟩
  obtain ⟨e, inEdges, from', to', attributes⟩ := isShown
  have stands :
      (e.source == source && e.target == link.task && e.get "ref" == .int link.branch) = true := by
    rw [Edge.get_ref attributes, Graph.int_beq_self, from', to']
    simp
  refine Flow.countP_eq_one draws.single (fun e isE f isF one two => ?_) inEdges stands
  obtain ⟨from', to', attributes⟩ := alike e isE one
  obtain ⟨from'', to'', attributes'⟩ := alike f isF two
  exact ⟨from'.trans from''.symm, to'.trans to''.symm, attributes.trans attributes'.symm⟩

theorem not_leads_of_start (isStart : name ∈ flow.startTasks) : ¬flow.Leads source name := by
  rintro ⟨link, goes, rfl⟩
  obtain ⟨-, alone⟩ := mem_startTasks.mp isStart
  rw [isEmpty_prevTasks, List.all_eq_true] at alone
  obtain ⟨step, mem, rfl, isLink⟩ := goes.exists_step
  have unled := alone step mem
  rw [goes.notCommand, Bool.false_or, Bool.not_eq_true', List.any_eq_false] at unled
  obtain ⟨branch, isBranch, isTarget⟩ := Step.exists_link.mp ⟨link, isLink, rfl⟩
  exact unled branch isBranch (List.contains_iff_mem.mpr isTarget)

theorem mem_roots {id : String} :
    id ∈ g.roots.map (·.id) ↔ id ∈ g.ids ∧ ∀ e ∈ g.edges, e.target ≠ id := by
  simp only [Graph.roots, Graph.sortVertices, Graph.ids, List.mem_map, List.mem_mergeSort,
    List.mem_filter, Bool.not_eq_true', List.any_eq_false, beq_iff_eq]
  constructor
  · rintro ⟨v, ⟨mem, unled⟩, rfl⟩
    exact ⟨⟨v, mem, rfl⟩, unled⟩
  · rintro ⟨⟨v, mem, rfl⟩, unled⟩
    exact ⟨v, ⟨mem, unled⟩, rfl⟩

/-- A flow in which every task that can be reached is defined has a graph that shows it as it is. -/
theorem exists_portrait (closed : flow.Closed)
    (unreserved : ∀ name ∈ flow.startTasks, name ≠ Command.retry.name) :
    ∃ g, flow.compose = .ok g ∧ flow.Portrays g := by
  obtain ⟨g, composed, draws, complete⟩ := exists_compose closed unreserved
  have reached : ∀ id, flow.Reaches id → id ≠ Command.retry.name → id ∈ g.ids := by
    intro id reaches
    induction reaches with
    | start isStart => exact fun _ => (complete _ (.inl isStart)).there
    | @onward name next reaches leads ih =>
      intro other
      obtain ⟨link, goes, rfl⟩ := leads
      obtain ⟨e, mem, -, same, -⟩ := (complete name (.inr (ih goes.notRetry))).links link goes other
      exact same ▸ (draws.drawn.edges e mem).target
  refine ⟨g, composed, ?_⟩
  constructor
  case tasks =>
    exact ⟨draws.drawn.named, fun id =>
      ⟨draws.vertices id, fun reaches => reached id reaches.1 reaches.2⟩⟩
  case edges =>
    intro e mem
    obtain ⟨link, goes, other, target, attributes⟩ := draws.edges e mem
    refine ⟨link, (draws.vertices _ (draws.drawn.edges e mem).source).1, goes, other, target, ?_,
      Edge.get_ref attributes⟩
    simp [Edge.get, attributes, Link.attributes, Entries.getStr?, Entries.get?, Value.str_beq]
  case links =>
    intro name link reaches goes other
    exact draws.countP_eq_one goes
      ((complete name (.inr (reached name reaches goes.notRetry))).links link goes other)
  case roots =>
    intro id
    rw [mem_roots]
    constructor
    · rintro ⟨there, unled⟩
      obtain ⟨reaches, other⟩ := draws.vertices id there
      cases reaches with
      | start isStart => exact isStart
      | @onward name _ reaches leads =>
        obtain ⟨link, goes, rfl⟩ := leads
        obtain ⟨e, mem, -, same, -⟩ :=
          (complete name (.inr (reached name reaches goes.notRetry))).links link goes other
        exact absurd same (unled e mem)
    · intro isStart
      refine ⟨(complete id (.inl isStart)).there, fun e mem same => ?_⟩
      obtain ⟨link, goes, -, target, -⟩ := draws.edges e mem
      exact not_leads_of_start isStart ⟨link, goes, target.symm.trans same⟩
  case barriers =>
    intro v mem step found
    have there : g.barrierAt? v.id = Entries.getStr? v.attributes "barrier" := by
      rw [Graph.barrierAt?, draws.drawn.vertex? mem]
      rfl
    rw [← there]
    by_cases joins : step.isJoin = true
    · rw [if_pos joins]
      exact (complete v.id (.inr (List.mem_map_of_mem mem))).barrier step found joins
    · rw [if_neg joins]
      refine Option.eq_none_iff_forall_not_mem.mpr fun b waits => joins ?_
      obtain ⟨step', found', joins', -⟩ := draws.barriers v.id b waits
      cases Except.ok.inj (found.symm.trans found')
      exact joins'

end Flow

/-! ### Workflows -/

theorem Value.hasField_iff {entries : Entries} {name : String} :
    (Value.map entries).hasField name = true ↔ .str name ∈ Entries.keys entries := by
  constructor
  · intro there
    obtain ⟨v, found⟩ := Option.isSome_iff_exists.mp there
    exact List.mem_map_of_mem (mem_of_getStr? found)
  · intro isKey
    obtain ⟨entry, isEntry, same⟩ := List.mem_map.mp isKey
    rw [Value.hasField, Value.field?, Entries.getStr?, Entries.get?, Option.isSome_map,
      List.find?_isSome]
    exact ⟨entry, isEntry, same ▸ (Value.str_beq name name).trans (beq_self_eq_true name)⟩

namespace Spec

variable {workflow tasks : Spec} {flow : Flow}

theorem forall_hasField {p : String → Bool}
    (checked : tasks.keys.toOption.all (·.all fun key => key.asStr?.all p) = true) (name : String)
    (there : tasks.raw.hasField name = true) : p name = true := by
  cases raw : tasks.raw with
  | map entries =>
    rw [keys, raw] at checked
    exact List.all_eq_true.mp checked _ (Value.hasField_iff.mp (raw ▸ there))
  | _ =>
    rw [raw] at there
    cases there

theorem toStep_eq_ok {name : String} {task : Property} {step : Step} :
    toStep name task = .ok step ↔ ∃ described transitions branches, task = .spec described ∧
      described.transitions = .ok transitions ∧ transitions.mapM read = .ok branches ∧
      checkOrder branches = .ok () ∧
      step = ⟨name, described.valueOrNull "join", described.retryPolicy,
        branches.map (·.branch), oddOf branches⟩ := by
  constructor
  · intro made
    cases task with
    | spec described =>
      obtain ⟨transitions, areTransitions, made⟩ := bind_eq_ok.mp made
      obtain ⟨branches, areBranches, made⟩ := bind_eq_ok.mp made
      obtain ⟨_, inOrder, made⟩ := bind_eq_ok.mp made
      exact ⟨described, transitions, branches, rfl, areTransitions, areBranches, inOrder,
        (Except.ok.inj made).symm⟩
    | value | method => cases made
  · rintro ⟨described, transitions, branches, rfl, areTransitions, areBranches, inOrder, rfl⟩
    exact bind_eq_ok.mpr ⟨transitions, areTransitions, bind_eq_ok.mpr ⟨branches, areBranches,
      bind_eq_ok.mpr ⟨(), inOrder, rfl⟩⟩⟩

theorem step_of_flow (described : tasks.flow = .ok flow) {step : Step} (mem : step ∈ flow.steps) :
    tasks.raw.hasField step.name = true ∧
      ∃ property, tasks.property step.name = .ok property ∧
        toStep step.name property = .ok step := by
  obtain ⟨keyed, areKeyed, described⟩ := bind_eq_ok.mp described
  obtain ⟨steps, areSteps, described⟩ := bind_eq_ok.mp described
  cases Except.ok.inj described
  obtain ⟨one, isKeyed, made⟩ := exists_of_mem_mapM areSteps step mem
  have named : step.name = one.1 := by
    obtain ⟨-, -, -, -, -, -, -, rfl⟩ := toStep_eq_ok.mp made
    rfl
  obtain ⟨keys, areKeys, areKeyed⟩ := bind_eq_ok.mp areKeyed
  obtain ⟨key, isKey, found⟩ := exists_of_mem_mapM areKeyed one isKeyed
  unfold Spec.keys at areKeys
  split at areKeys
  case h_2 => cases areKeys
  case h_1 entries raw =>
    cases Except.ok.inj areKeys
    cases key with
    | str name =>
      obtain ⟨property, isProperty, found⟩ := bind_eq_ok.mp found
      cases Except.ok.inj found
      rw [named]
      exact ⟨raw ▸ Value.hasField_iff.mpr isKey, property, isProperty, made⟩
    | _ => cases found

theorem closed_of_detectUndefined {place : Place}
    (defined : tasks.detectUndefined (some place) = .ok []) :
    ∃ flow, tasks.flow = .ok flow ∧ flow.Closed := by
  obtain ⟨flow, described, defined⟩ := bind_eq_ok.mp defined
  refine ⟨flow, described, ?_⟩
  split at defined
  case isTrue noStart =>
    exact fun name reaches => absurd (List.isEmpty_iff.mp noStart) reaches.startTasks_ne_nil
  case isFalse =>
    obtain ⟨_, _, defined⟩ := bind_eq_ok.mp defined
    obtain ⟨undefined, searched, nothing⟩ := bind_eq_ok.mp defined
    rw [List.map_eq_nil_iff.mp (Except.ok.inj nothing)] at searched
    exact Flow.closed_of_undefinedTasks searched

/-- A flow starts with tasks, so that it does not start with a command if none of them has the name
of one. -/
theorem ne_retry_of_start (described : tasks.flow = .ok flow)
    (unreserved : ∀ name, tasks.raw.hasField name = true → Command.isName name = false) :
    ∀ name ∈ flow.startTasks, name ≠ Command.retry.name := by
  intro name isStart
  obtain ⟨step, mem, rfl⟩ := List.mem_map.mp (Flow.mem_startTasks.mp isStart).1
  rintro same
  have free := unreserved step.name (step_of_flow described mem).1
  rw [same] at free
  exact absurd free (by decide)

theorem compose_of_flow {g : Graph} (native : workflow.kind.catalog = .native)
    (mapped : workflow.property "tasks" = .ok (.spec tasks)) (described : tasks.flow = .ok flow)
    (composed : flow.compose = .ok g) : workflow.compose = .ok g := by
  unfold compose composeWith
  rw [native]
  dsimp only
  rw [bne_self_eq_false, if_neg Bool.false_ne_true]
  exact bind_eq_ok.mpr ⟨_, mapped, bind_eq_ok.mpr ⟨flow, described, composed⟩⟩

end Spec

/-! ### A review -/

namespace Review

/-- A draft is reviewed, and written again until the review goes well. -/
def workflow : Value := .fields [("tasks", .fields [
  ("prepare", .fields [("next", .list [.fields [("do", .str "draft, review")]])]),
  ("draft", .fields [("next", .list [.fields [("do", .str "review")]])]),
  ("review", .fields [("join", .str "all"), ("next", .list [
    .fields [("when", .str "<% failed() %>"), ("do", .list [.str "draft", .str "retry"])],
    .fields [("do", .str "noop")]])])])]

def leads (flow : Flow) (name next : String) : Bool :=
  (flow.step name).toOption.any (·.branches.any (·.targets.contains next))

theorem leads_of_true {flow : Flow} {name next : String} (checked : leads flow name next = true) :
    flow.Leads name next := by
  obtain ⟨step, found, listed⟩ := exists_of_any checked
  obtain ⟨branch, isBranch, isTarget⟩ := List.any_eq_true.mp listed
  obtain ⟨link, isLink, rfl⟩ :=
    Step.exists_link.mpr ⟨branch, isBranch, List.contains_iff_mem.mp isTarget⟩
  exact Flow.leads_of_mem found isLink

structure Rounds (spec tasks : Spec) (flow : Flow) : Prop where
  made : Spec.make .workflow workflow = .ok spec
  native : spec.kind.catalog = .native
  mapped : spec.property "tasks" = .ok (.spec tasks)
  described : tasks.flow = .ok flow
  named : tasks.raw.hasField "draft" = true
  unreserved : ∀ name, tasks.raw.hasField name = true → Command.isName name = false
  plain : flow.Plain
  defined : ∀ step ∈ flow.steps, ∀ branch ∈ step.branches, ∀ target ∈ branch.targets,
    flow.has target = true
  first : "prepare" ∈ flow.startTasks
  begins : flow.Leads "prepare" "draft"
  onward : flow.Leads "draft" "review"
  back : flow.Leads "review" "draft"

theorem exists_rounds : ∃ spec tasks flow, Rounds spec tasks flow := by
  obtain ⟨spec, made, checked⟩ := exists_of_any (x := Spec.make .workflow workflow)
    (p := fun spec => spec.kind.catalog == .native && spec.taskMapping.toOption.any fun tasks =>
      tasks.raw.hasField "draft" &&
      tasks.keys.toOption.all (·.all fun key => key.asStr?.all fun name => !Command.isName name) &&
      tasks.flow.toOption.any fun flow =>
        (flow.steps.all fun step => step.odd.isEmpty) &&
        (flow.steps.all fun step => step.branches.all fun branch => branch.targets.all flow.has) &&
        flow.defines "prepare" &&
        (flow.steps.all fun step =>
          Command.isName step.name || !step.branches.any (·.targets.contains "prepare")) &&
        leads flow "prepare" "draft" && leads flow "draft" "review" && leads flow "review" "draft")
    (by decide +kernel)
  obtain ⟨native, checked⟩ := Bool.and_eq_true_iff.mp checked
  obtain ⟨tasks, mapping, checked⟩ := exists_of_any checked
  obtain ⟨listed, checked⟩ := Bool.and_eq_true_iff.mp checked
  obtain ⟨named, names⟩ := Bool.and_eq_true_iff.mp listed
  obtain ⟨flow, described, checked⟩ := exists_of_any checked
  simp only [Bool.and_eq_true, List.all_eq_true, List.isEmpty_iff] at checked
  obtain ⟨⟨⟨⟨⟨⟨plain, defined⟩, there⟩, unled⟩, begins⟩, onward⟩, back⟩ := checked
  have mapped : spec.property "tasks" = .ok (.spec tasks) := by
    obtain ⟨property, mapped, same⟩ := bind_eq_ok.mp mapping
    cases property with
    | spec own => exact Except.ok.inj same ▸ mapped
    | value | method => cases same
  have unreserved (name : String) (isTask : tasks.raw.hasField name = true) :
      Command.isName name = false := by
    simpa using Spec.forall_hasField names name isTask
  have first : "prepare" ∈ flow.startTasks := by
    rw [Flow.mem_startTasks, Flow.isEmpty_prevTasks, List.all_eq_true]
    exact ⟨Flow.defines_iff.mp there, unled⟩
  exact ⟨spec, tasks, flow, made, eq_of_beq native, mapped, described, named, unreserved, plain,
    defined, first, leads_of_true begins, leads_of_true onward, leads_of_true back⟩

end Review

end Orchestration
