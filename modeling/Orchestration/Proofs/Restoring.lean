import Mathlib.Data.List.Sort
import Orchestration.Proofs.Redrawing
import Orchestration.Conductor.Status

/-!
Graphs that are kept as data.

A graph that has been written and read again has the same tasks, and between two tasks the same
edges in the same order. Where a task goes on to is listed as before, though the edges that come to
a task may be in another order; whether the tasks before a task let it start does not depend on that
order. Only this is new: an edge that has been read tells its target and its key among its
attributes.
-/

namespace Orchestration

/-! ### The order of texts -/

namespace Value

/-- Texts are compared letter by letter, by the codes of the letters. -/
theorem compareChars_eq (s t : List Char) :
    compareChars s t = List.compareLex (compareOn Char.toNat) s t := by
  fun_induction compareChars s t with
  | case1 | case2 | case3 => rfl
  | case4 c cs d ds same ih =>
    rw [List.compareLex_cons_cons, eq_of_beq same, compareOn, Nat.compare_eq_eq.mpr rfl,
      Ordering.eq_then, ih]
  | case5 c cs d ds other =>
    have apart : compare c.toNat d.toNat ≠ .eq := by
      rw [Ne, Nat.compare_eq_eq]
      exact fun same => other (by simpa using Char.toNat_inj.mp same)
    rw [List.compareLex_cons_cons, compareOn]
    cases compared : compare c.toNat d.toNat with
    | eq => exact absurd compared apart
    | lt | gt => rfl

instance : Std.LawfulEqCmp (compareOn Char.toNat) where
  eq_of_compare same := Char.toNat_inj.mp (Nat.compare_eq_eq.mp same)

variable {a b c : String}

theorem compareText_le :
    (compareText a b != .gt) = (List.compareLex (compareOn Char.toNat) a.toList b.toList).isLE := by
  rw [← compareChars_eq, ← compareText]
  cases compareText a b <;> rfl

theorem compareText_trans (first : (compareText a b != .gt) = true)
    (second : (compareText b c != .gt) = true) : (compareText a c != .gt) = true := by
  rw [compareText_le] at first second ⊢
  exact Std.TransCmp.isLE_trans first second

theorem compareText_total (a b : String) :
    (compareText a b != .gt || compareText b a != .gt) = true := by
  have swapped : List.compareLex (compareOn Char.toNat) a.toList b.toList =
      (List.compareLex (compareOn Char.toNat) b.toList a.toList).swap := Std.OrientedCmp.eq_swap
  rw [compareText_le, compareText_le, swapped]
  cases List.compareLex (compareOn Char.toNat) b.toList a.toList <;> rfl

theorem compareText_antisymm (first : (compareText a b != .gt) = true)
    (second : (compareText b a != .gt) = true) : a = b := by
  rw [compareText_le] at first second
  exact String.toList_inj.mp
    (Std.LawfulEqCmp.eq_of_compare (Std.OrientedCmp.isLE_antisymm first second))

end Value

/-! ### Edges in order -/

namespace Edge

def precedes (a b : Edge) : Bool := Value.compareText a.target b.target != .gt

theorem precedes_trans (a b c : Edge) (first : a.precedes b = true) (second : b.precedes c = true) :
    a.precedes c = true :=
  Value.compareText_trans first second

theorem precedes_total (a b : Edge) : (a.precedes b || b.precedes a) = true :=
  Value.compareText_total a.target b.target

theorem sortByTarget_eq (edges : List Edge) : sortByTarget edges = edges.mergeSort precedes := rfl

def Sorted (edges : List Edge) : Prop := edges.Pairwise fun a b => a.precedes b = true

theorem sorted_sortByTarget (edges : List Edge) : Sorted (sortByTarget edges) := by
  rw [sortByTarget_eq]
  exact List.pairwise_mergeSort precedes_trans precedes_total edges

theorem filter_sortByTarget (edges : List Edge) (target : String) :
    (sortByTarget edges).filter (·.target == target) = edges.filter (·.target == target) := by
  have alike : (edges.filter (·.target == target)).Pairwise fun a b => a.precedes b = true := by
    refine List.pairwise_iff_forall_sublist.mpr fun {a b} within => ?_
    have targets : ∀ e ∈ [a, b], e.target = target := fun e there =>
      eq_of_beq (List.mem_filter.mp (within.subset there)).2
    have both := Value.compareText_total target target
    rw [precedes, targets a (by simp), targets b (by simp)]
    simpa using both
  have kept := List.sublist_mergeSort precedes_trans precedes_total alike List.filter_sublist
  have inOrder := kept.filter (·.target == target)
  rw [List.filter_filter] at inOrder
  simp only [Bool.and_self] at inOrder
  rw [sortByTarget_eq]
  exact (inOrder.eq_of_length ((List.mergeSort_perm _ _).filter _).length_eq.symm).symm

/-- Edges that are in order are known if for each target the edges to it are known. -/
theorem eq_of_filter_eq {edges others : List Edge} (sorted : Sorted edges) (sorted' : Sorted others)
    (same : ∀ target, edges.filter (·.target == target) = others.filter (·.target == target)) :
    edges = others := by
  induction edges generalizing others with
  | nil =>
    cases others with
    | nil => rfl
    | cons f rest => simpa using same f.target
  | cons e edges ih =>
    obtain ⟨first, inOrder⟩ := List.pairwise_cons.mp sorted
    have inOthers : e ∈ others := by
      have there : e ∈ (e :: edges).filter (·.target == e.target) := by simp
      rw [same] at there
      exact List.mem_of_mem_filter there
    cases others with
    | nil => cases inOthers
    | cons f rest =>
      obtain ⟨first', inOrder'⟩ := List.pairwise_cons.mp sorted'
      have inEdges : f ∈ e :: edges := by
        have there : f ∈ (f :: rest).filter (·.target == f.target) := by simp
        rw [← same] at there
        exact List.mem_of_mem_filter there
      -- The first edges have one target: each of them is among the edges of the other list.
      have targets : e.target = f.target := by
        rcases List.mem_cons.mp inOthers with rfl | later
        · rfl
        · rcases List.mem_cons.mp inEdges with rfl | later'
          · rfl
          · exact Value.compareText_antisymm (first f later') (first' e later)
      have heads := same e.target
      rw [List.filter_cons_of_pos (by simp), List.filter_cons_of_pos (by simp [targets])] at heads
      obtain ⟨rfl, -⟩ := List.cons.inj heads
      refine congrArg _ (ih inOrder inOrder' fun target => ?_)
      by_cases here : e.target = target
      · simpa [here] using same target
      · simpa [here] using same target

end Edge

/-! ### Plain attributes -/

namespace Entries

/-- Plain data under names, none of which is where a graph writes the name of a task or the key of
an edge. -/
structure Plain (entries : Entries) : Prop where
  tidy : Value.Tidy (.map entries)
  unnamed : ∀ name ∈ ["id", "key"], Value.str name ∉ keys entries

variable {entries more : Entries} {f : Value → Value}

theorem plain_nil : Plain [] := ⟨⟨List.nodup_nil, trivial⟩, fun _ _ => List.not_mem_nil⟩

theorem Plain.insert {name : String} {v : Value} (plain : Plain entries)
    (other : name ∉ ["id", "key"]) (tidy : Value.Tidy v) :
    Plain (Entries.insert entries (.str name) v) where
  tidy := Value.tidy_insert plain.tidy tidy
  unnamed reserved isReserved there := by
    rcases Value.mem_keys_insert there with same | old
    · cases same
      exact other isReserved
    · exact plain.unnamed reserved isReserved old

theorem Plain.insertAll (plain : Plain entries) (others : Plain more) :
    Plain (Entries.insertAll entries more) := by
  obtain ⟨⟨-, tidy⟩, unnamed⟩ := others
  unfold Entries.insertAll
  induction more generalizing entries with
  | nil => exact plain
  | cons entry rest ih =>
    obtain ⟨k, v⟩ := entry
    obtain ⟨⟨name, rfl⟩, first, others⟩ := tidy
    have other : name ∉ ["id", "key"] :=
      fun isReserved => unnamed name isReserved (List.mem_cons_self ..)
    refine ih (plain.insert other first) (fun reserved isReserved there => ?_) others
    exact unnamed reserved isReserved (List.mem_cons_of_mem _ there)

theorem Plain.addable (plain : Plain entries) : Graph.Addable Plain entries :=
  ⟨plain, fun _ old => old.insertAll plain⟩

theorem mapValues_of_tidy (rewrites : Value.Rewrites f) (tidy : Value.Tidy (.map entries)) :
    mapValues f entries = entries := by
  refine (List.map_congr_left fun entry mem => ?_).trans (List.map_id _)
  exact congrArg (Prod.mk entry.1) (rewrites.tidy _ (Value.tidyEntries_iff.mp tidy.2 _ _ mem).2)

end Entries

def Edge.told (e : Edge) : Edge :=
  { e with attributes := e.attributes ++ [(.str "id", .str e.target), (.str "key", e.key)] }

theorem Vertex.redrawn_of_plain {f : Value → Value} {v : Vertex} (rewrites : Value.Rewrites f)
    (plain : v.attributes.Plain) : v.redrawn f = v := by
  rw [Vertex.redrawn, Entries.mapValues_of_tidy rewrites plain.tidy]

section Plain

variable {e : Edge} (plain : e.attributes.Plain)
include plain

/-- The target and the key of an edge are told behind its own attributes. -/
theorem Edge.tell_append (more : Entries) :
    Entries.insertStr (Entries.insertStr (e.attributes ++ more) "id" (.str e.target)) "key" e.key =
      e.attributes ++ Entries.insertStr (Entries.insertStr more "id" (.str e.target))
      "key" e.key := by
  obtain ⟨names, -, keys⟩ := Value.textKeys_of_tidy plain.tidy
  have unnamed (name : String) (isReserved : name ∈ ["id", "key"]) : name ∉ names := fun there =>
    plain.unnamed name isReserved (keys ▸ List.mem_map_of_mem there)
  unfold Entries.insertStr
  rw [Entries.insert_append more _ keys (unnamed "id" (by decide)),
    Entries.insert_append _ _ keys (unnamed "key" (by decide))]

theorem Edge.redrawn_of_plain {f : Value → Value} (rewrites : Value.Rewrites f)
    (numbered : ∃ n : Nat, e.key = .int n) : e.redrawn f = e.told := by
  obtain ⟨n, key⟩ := numbered
  have own := Entries.mapValues_of_tidy rewrites plain.tidy
  have tell := Edge.tell_append plain []
  rw [List.append_nil] at tell
  unfold Edge.redrawn Edge.told
  rw [tell, Entries.mapValues, List.map_append, ← Entries.mapValues, own, key]
  simp [Entries.insertStr, Entries.insert, Value.str_beq, rewrites.str, rewrites.int]

theorem Graph.edgeData_told : Graph.edgeData e.told = Graph.edgeData e := by
  have tell := Edge.tell_append plain []
  rw [List.append_nil] at tell
  unfold Graph.edgeData
  change Value.map (Entries.insertStr (Entries.insertStr (e.attributes ++ _) "id" (.str e.target))
    "key" e.key) = _
  rw [Edge.tell_append plain, tell]
  simp [Entries.insertStr, Entries.insert, Value.str_beq]

end Plain

namespace Graph

/-- Of parts that are told apart by names, only one is not empty. -/
theorem flatMap_eq_of_nodup {α : Type} {names : List String} (name : String)
    {part : String → List α} (distinct : names.Nodup)
    (others : ∀ other ∈ names, other ≠ name → part other = [])
    (missing : name ∉ names → part name = []) : names.flatMap part = part name := by
  induction names with
  | nil => exact (missing List.not_mem_nil).symm
  | cons first rest ih =>
    obtain ⟨notInRest, distinct⟩ := List.nodup_cons.mp distinct
    rw [List.flatMap_cons]
    by_cases here : first = name
    · subst here
      have nothing : rest.flatMap part = [] := List.flatMap_eq_nil_iff.mpr fun other there =>
        others other (List.mem_cons_of_mem _ there) fun same => notInRest (same ▸ there)
      rw [nothing, List.append_nil]
    · rw [others first (List.mem_cons_self ..) here, List.nil_append]
      refine ih distinct (fun other there => others other (List.mem_cons_of_mem _ there))
        fun new => ?_
      exact missing fun there => (List.mem_cons.mp there).elim (fun same => here same.symm) new

variable {g h : Graph} {id source target : String} {f : Value → Value}

theorem filter_grouped (endOf : Edge → String) (edges : List Edge) (name : String) :
    (grouped endOf edges).filter (endOf · == name) = edges.filter (endOf · == name) := by
  rw [grouped, List.filter_flatMap, flatMap_eq_of_nodup name (nodup_eraseDups _)]
  · simp
  · intro other _ apart
    rw [List.filter_filter, List.filter_eq_nil_iff]
    simp only [Bool.and_eq_true, beq_iff_eq]
    exact fun e _ same => apart (same.2.symm.trans same.1)
  · intro missing
    rw [List.filter_filter, List.filter_eq_nil_iff]
    simp only [Bool.and_eq_true, beq_iff_eq]
    refine fun e mem same => missing ?_
    exact List.mem_eraseDups.mpr (List.mem_map.mpr ⟨e, mem, same.1⟩)

theorem filter_nextTransitions (g : Graph) (id target : String) :
    (g.nextTransitions id).filter (·.target == target) = g.between id target := by
  rw [nextTransitions, Edge.filter_sortByTarget, outEdges, filter_grouped,
    List.filter_filter, between]
  exact List.filter_congr fun e _ => Bool.and_comm ..

theorem filter_prevTransitions (g : Graph) (id source : String) :
    (g.prevTransitions id).filter (·.source == source) = g.between source id := by
  rw [prevTransitions, inEdges, filter_grouped, List.filter_filter, between]

theorem between_redrawn (named : g.ids.Nodup) (known : ∀ e ∈ g.edges, e.source ∈ g.ids)
    (source target : String) :
    (g.redrawn f).between source target = (g.between source target).map (·.redrawn f) := by
  have parts : (g.redrawn f).edges = g.ids.flatMap fun id =>
      (g.nextTransitions id).map (·.redrawn f) := by
    rw [redrawn, ids, List.flatMap_map]
  rw [between, parts, List.filter_flatMap, flatMap_eq_of_nodup source named,
    ← filter_nextTransitions, List.filter_map]
  · congr 1
    refine List.filter_congr fun e mem => ?_
    simp [Edge.redrawn, (mem_nextTransitions.mp mem).2]
  · intro other _ apart
    rw [List.filter_eq_nil_iff]
    intro e mem
    obtain ⟨old, inNext, rfl⟩ := List.mem_map.mp mem
    simp [Edge.redrawn, (mem_nextTransitions.mp inNext).2, apart]
  · intro missing
    rw [List.filter_eq_nil_iff]
    intro e mem
    obtain ⟨old, inNext, rfl⟩ := List.mem_map.mp mem
    obtain ⟨inEdges, rfl⟩ := mem_nextTransitions.mp inNext
    exact absurd (known old inEdges) missing

theorem nextTransitions_redrawn (named : g.ids.Nodup) (known : ∀ e ∈ g.edges, e.source ∈ g.ids)
    (id : String) :
    (g.redrawn f).nextTransitions id = (g.nextTransitions id).map (·.redrawn f) := by
  refine Edge.eq_of_filter_eq (Edge.sorted_sortByTarget _)
    (List.pairwise_map.mpr (Edge.sorted_sortByTarget _)) ?_
  intro target
  rw [filter_nextTransitions, between_redrawn named known, ← filter_nextTransitions,
    List.filter_map]
  rfl

/-! ### What a task waits for -/

open Conductor (inboundFrom inboundOf isMet inboundIn)

theorem mem_sources :
    source ∈ ((g.prevTransitions id).map (·.source)).eraseDups ↔ g.between source id ≠ [] := by
  rw [List.mem_eraseDups, List.mem_map, ← filter_prevTransitions, Ne, List.filter_eq_nil_iff]
  push Not
  simp only [beq_iff_eq]

/-- Whether a task went on to another depends on the edges between them only. -/
theorem inboundFrom_eq (s : State) (g : Graph) (task source : String) (route : Nat) :
    inboundFrom s (g.prevTransitions task) source route = (g.between source task).foldl
      (fun known edge =>
      if known == some true then known else (Conductor.taken s edge route).or known) none := by
  rw [inboundFrom, filter_prevTransitions]

/-- What is known of the tasks before a task is known in any order of the edges. -/
theorem inboundOf_perm
    (same : ∀ source, h.between source id = (g.between source id).map (·.redrawn f)) (s : State)
    (route : Nat) : (inboundOf h s id route).Perm (inboundOf g s id route) := by
  have sources : ((h.prevTransitions id).map (·.source)).eraseDups.Perm
      ((g.prevTransitions id).map (·.source)).eraseDups := by
    refine (List.perm_ext_iff_of_nodup (nodup_eraseDups _) (nodup_eraseDups _)).mpr fun source => ?_
    rw [mem_sources, mem_sources, same, Ne, List.map_eq_nil_iff]
  have alike (source : String) : inboundFrom s (h.prevTransitions id) source route =
      inboundFrom s (g.prevTransitions id) source route := by
    rw [inboundFrom_eq, inboundFrom_eq, same, List.foldl_map]
    rfl
  unfold inboundOf
  simp only [alike]
  exact sources.map _

theorem barrier_congr (vertices : h.vertices = g.vertices) (id : String) :
    h.barrier id = g.barrier id := by
  simp only [barrier, taskField, task, Graph.attributes, vertex?, vertices]

/-- Whether the tasks before a task let it start does not depend on the order in which its edges are
listed. -/
theorem inboundIn_eq (vertices : h.vertices = g.vertices)
    (same : ∀ source, h.between source id = (g.between source id).map (·.redrawn f)) (s : State)
    (route : Nat) : inboundIn h s id route = inboundIn g s id route := by
  have perm := inboundOf_perm same s route
  have met : isMet h s id route = isMet g s id route := by
    simp only [isMet, barrier_congr vertices, perm.count_eq, perm.length_eq]
  have unknown : (inboundOf h s id route).contains none =
      (inboundOf g s id route).contains none := by
    rw [Bool.eq_iff_iff, List.contains_iff_mem, List.contains_iff_mem, perm.mem_iff]
  unfold inboundIn
  rw [met, unknown]

/-! ### What reading keeps -/

abbrev Plainly (g : Graph) : Prop := Neat (fun _ => Entries.Plain) (fun _ => Entries.Plain) g

/-- One graph is another that has been written and read: it has the same tasks and, but for what its
edges tell of themselves, the same edges. It goes on in the same way, lets the same tasks start and
is written in the same way. -/
structure Restores (g h : Graph) : Prop where
  tasks : h.vertices = g.vertices
  transitions : ∀ source target, h.between source target = (g.between source target).map Edge.told
  next : ∀ id, h.nextTransitions id = (g.nextTransitions id).map Edge.told
  inbound : ∀ s task route, inboundIn h s task route = inboundIn g s task route
  written : h.serialize = g.serialize

theorem Plainly.writable (plainly : g.Plainly) : g.Writable :=
  plainly.mono (fun _ _ said => ⟨Value.textKeys_of_tidy said.tidy, said.unnamed "id" (by decide)⟩)
    fun _ _ said => Value.textKeys_of_tidy said.tidy

theorem Plainly.redrawn_eq_told (plainly : g.Plainly) (rewrites : Value.Rewrites f)
    {edges : List Edge} (known : edges ⊆ g.edges) :
    edges.map (·.redrawn f) = edges.map Edge.told := by
  refine List.map_congr_left fun e mem => ?_
  have neat := plainly.edges e (known mem)
  exact Edge.redrawn_of_plain neat.attributes rewrites neat.numbered

theorem Plainly.restores_redrawn (plainly : g.Plainly) (rewrites : Value.Rewrites f) :
    Restores g (g.redrawn f) := by
  have known : ∀ e ∈ g.edges, e.source ∈ g.ids := fun e mem => (plainly.edges e mem).source
  have tasks : (g.redrawn f).vertices = g.vertices := by
    refine (List.map_congr_left fun v mem => ?_).trans (List.map_id _)
    exact Vertex.redrawn_of_plain rewrites (plainly.attributes v mem)
  have next (id : String) :
      (g.redrawn f).nextTransitions id = (g.nextTransitions id).map Edge.told := by
    rw [nextTransitions_redrawn plainly.named known]
    exact plainly.redrawn_eq_told rewrites fun e mem => (mem_nextTransitions.mp mem).1
  constructor
  case tasks => exact tasks
  case next => exact next
  case transitions =>
    intro source target
    rw [between_redrawn plainly.named known]
    exact plainly.redrawn_eq_told rewrites fun e mem => List.mem_of_mem_filter mem
  case inbound =>
    intro s task route
    exact inboundIn_eq tasks (fun source => between_redrawn plainly.named known source task) s route
  case written =>
    have alike (id : String) :
        ((g.redrawn f).nextTransitions id).map edgeData = (g.nextTransitions id).map edgeData := by
      rw [next, List.map_map]
      refine List.map_congr_left fun e mem => edgeData_told ?_
      exact (plainly.edges e (mem_nextTransitions.mp mem).1).attributes
    unfold serialize
    simp only [tasks, alike, plainly.about]
    rfl

theorem Plainly.exists_restores (plainly : g.Plainly) :
    ∃ h, deserialize g.serialize = .ok h ∧ Restores g h := by
  obtain ⟨f, rewrites, read⟩ := plainly.writable.deserialize_serialize
  exact ⟨_, read, plainly.restores_redrawn rewrites⟩

/-! ### Graphs as they are drawn -/

inductive Change where
  | addTask (id : String) (attributes : Entries)
  | updateTask (id : String) (attributes : Entries)
  | addTransition (source target : String) (attributes : Entries)
  | updateTransition (source target : String) (key : Value) (attributes : Entries)
  | setBarrier (id : String) (value : Value)

namespace Change

def said : Change → Entries
  | addTask _ attributes => attributes
  | updateTask _ attributes => attributes
  | addTransition _ _ attributes => attributes
  | updateTransition _ _ _ attributes => attributes
  | setBarrier _ value => [(.str "barrier", value)]

def apply (g : Graph) : Change → Except Error Graph
  | addTask id attributes => .ok (g.addTask id attributes)
  | updateTask id attributes => g.updateTask id attributes
  | addTransition source target attributes => .ok (g.addTransition source target .null attributes)
  | updateTransition source target key attributes => g.updateTransition source target key attributes
  | setBarrier id value => g.setBarrier id value

end Change

/-- A graph after one change after the other; a change that is refused leaves the graph as it is. -/
def changed (g : Graph) (changes : List Change) : Graph :=
  changes.foldl (fun g change => (change.apply g).toOption.getD g) g

theorem Plainly.apply {change : Change} (plainly : g.Plainly) (plain : change.said.Plain)
    (applied : change.apply g = .ok h) : h.Plainly := by
  cases change with
  | addTask id attributes =>
    cases applied
    exact plainly.addTask plain.addable
  | updateTask id attributes => exact plainly.updateTask plain.addable applied
  | addTransition source target attributes =>
    cases applied
    exact plainly.addTransition (fun _ => Entries.plain_nil) plain.addable
  | updateTransition source target key attributes =>
    exact plainly.updateTransition (fun _ => plain.addable) applied
  | setBarrier id value => exact plainly.updateTask plain.addable applied

theorem Plainly.changed {changes : List Change} (plainly : g.Plainly)
    (plain : ∀ change ∈ changes, change.said.Plain) : (g.changed changes).Plainly := by
  induction changes generalizing g with
  | nil => exact plainly
  | cons change rest ih =>
    have kept : ((change.apply g).toOption.getD g).Plainly := by
      cases applied : change.apply g with
      | error => exact plainly
      | ok h => exact plainly.apply (plain change (List.mem_cons_self ..)) applied
    exact ih kept fun later mem => plain later (List.mem_cons_of_mem _ mem)

/-- A graph that has been drawn with plain data, in any way, can be written and read, and is then as
it was but for what its edges tell of themselves. -/
theorem exists_restored (changes : List Change) (plain : ∀ change ∈ changes, change.said.Plain) :
    ∃ h, deserialize (empty.changed changes).serialize = .ok h ∧
      Restores (empty.changed changes) h := by
  have plainly : (empty.changed changes).Plainly := Plainly.changed neat_empty plain
  exact plainly.exists_restores

/-- Two edges lead to a task that waits for all before it; one of the changes is refused. -/
def Change.twins : List Change :=
  [.addTransition "a" "c" [(.str "x", .int 1)], .addTransition "b" "c" [],
    .addTransition "a" "c" [], .updateTransition "a" "c" (.int 1) [(.str "x", .list [.null])],
    .setBarrier "c" (.str "*"), .updateTask "d" []]

theorem Change.plain_twins : ∀ change ∈ twins, change.said.Plain := by
  have one {name : String} {v : Value} (other : name ∉ ["id", "key"]) (tidy : v.Tidy) :
      Entries.Plain [(.str name, v)] := Entries.plain_nil.insert other tidy
  simp only [twins, List.forall_mem_cons]
  refine ⟨one (by decide) trivial, Entries.plain_nil, Entries.plain_nil,
    one (by decide) ⟨trivial, trivial⟩,
    one (by decide) trivial, Entries.plain_nil, List.forall_mem_nil _⟩

theorem exists_restored_twins :
    ((empty.changed Change.twins).between "a" "c").length = 2 ∧
      (.setBarrier "c" (.str "*")) ∈ Change.twins ∧
      Entries.Plain (Change.setBarrier "c" (.str "*")).said ∧
      ∃ h, deserialize (empty.changed Change.twins).serialize = .ok h ∧
        Restores (empty.changed Change.twins) h := by
  have waits : Change.setBarrier "c" (.str "*") ∈ Change.twins := by simp [Change.twins]
  exact ⟨by decide +kernel, waits, Change.plain_twins _ waits,
    exists_restored Change.twins Change.plain_twins⟩

/-- An edge that has been read says more than the edge that was drawn. -/
theorem nextTransitions_restored_ne :
    ∃ h, deserialize (empty.addTransition "a" "b" .null [(.str "x", .int 1)]).serialize = .ok h ∧
      h.nextTransitions "a" ≠ (empty.addTransition "a" "b" .null
        [(.str "x", .int 1)]).nextTransitions "a" := by
  have plain : Entries.Plain [(.str "x", .int 1)] := Entries.plain_nil.insert (by decide) trivial
  have plainly : (empty.addTransition "a" "b" .null [(.str "x", .int 1)]).Plainly :=
    neat_empty.addTransition (fun _ => Entries.plain_nil) plain.addable
  obtain ⟨h, read, restores⟩ := plainly.exists_restores
  refine ⟨h, read, fun same => ?_⟩
  have told :=
    congrArg (List.map fun e => e.attributes.length) ((restores.next "a").symm.trans same)
  exact absurd told (by decide +kernel)

end Graph

end Orchestration
