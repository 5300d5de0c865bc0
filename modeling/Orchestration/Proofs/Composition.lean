import Mathlib.Data.List.Nodup
import Orchestration.Proofs.Conducting
import Orchestration.Proofs.Copying
import Orchestration.Spec.Composition

/-!
What is known of a graph that has been composed.

Tasks and edges are told apart, edges by numbers. Commands wait for nothing, are never tried again,
and lead nowhere.
-/

namespace Orchestration

/-! ### Worklists -/

namespace Worklist

variable {σ α : Type} {visit : Visit σ α}

/-- The first item that waits is done, and what it makes waits behind the others. -/
inductive Steps (visit : Visit σ α) : σ × List α → σ × List α → Prop where
  | step {s last : σ} {a : α} {rest more : List α} : visit s a = .ok (last, more) →
    Steps visit (s, a :: rest) (last, rest ++ more)

theorem round_drain (holds : σ → List α → Prop)
    (each : ∀ s a rest s' more, holds s (a :: rest) → visit s a = .ok (s', more) →
      holds s' (rest ++ more))
    {waiting next : List α} {s : σ} {reached : σ × List α} (start : holds s (waiting ++ next))
    (done : waiting.foldlM (fun reached item => do
      let found ← visit reached.1 item
      .ok (found.1, reached.2 ++ found.2)) (s, next) = .ok reached) :
      holds reached.1 reached.2 := by
  induction waiting generalizing s next with
  | nil =>
    cases Except.ok.inj done
    exact start
  | cons a rest ih =>
    rw [List.foldlM_cons] at done
    obtain ⟨⟨s', found⟩, visited, done⟩ := bind_eq_ok.mp done
    obtain ⟨⟨_, more⟩, here, same⟩ := bind_eq_ok.mp visited
    cases Except.ok.inj same
    refine ih ?_ done
    rw [← List.append_assoc]
    exact each s a (rest ++ next) _ more start here

/-- What each visit keeps of the state and of all that waits is kept until nothing waits. -/
theorem run_drain (holds : σ → List α → Prop)
    (each : ∀ s a rest s' more, holds s (a :: rest) → visit s a = .ok (s', more) →
      holds s' (rest ++ more))
    {fuel : Nat} {s last : σ} {waiting : List α} (start : holds s waiting)
    (done : run visit fuel s waiting = .ok last) : holds last [] := by
  induction fuel generalizing s waiting with
  | zero =>
    cases waiting with
    | nil => exact Except.ok.inj done ▸ start
    | cons => cases done
  | succ fuel ih =>
    cases waiting with
    | nil => exact Except.ok.inj done ▸ start
    | cons a rest =>
      obtain ⟨⟨next, more⟩, visited, done⟩ := bind_eq_ok.mp done
      refine ih (round_drain holds each ?_ visited) done
      rw [List.append_nil]
      exact start

end Worklist

/-! ### Attributes -/

namespace Entries

def NamedBy (allowed : List String) (entries : Entries) : Prop :=
  ∃ names : List String, names.Nodup ∧ names ⊆ allowed ∧ Entries.keys entries = names.map .str

variable {allowed : List String} {entries more : Entries}

theorem keys_insert_of_mem {name : String} {names : List String} (v : Value)
    (keys : Entries.keys entries = names.map .str) (there : name ∈ names) :
    Entries.keys (insert entries (.str name) v) = names.map .str := by
  induction entries generalizing names with
  | nil =>
    cases names with
    | nil => cases there
    | cons => cases keys
  | cons entry rest ih =>
    obtain ⟨k, w⟩ := entry
    cases names with
    | nil => cases there
    | cons first others =>
      obtain ⟨rfl, keysRest⟩ := List.cons.inj keys
      rw [insert, Value.str_beq]
      split
      · exact keys
      case isFalse other =>
        have inRest : name ∈ others := by
          rcases List.mem_cons.mp there with rfl | inRest
          · exact (other (beq_self_eq_true _)).elim
          · exact inRest
        exact congrArg (Value.str first :: ·) (ih keysRest inRest)

theorem NamedBy.insert {name : String} (named : NamedBy allowed entries)
    (known : name ∈ allowed) (v : Value) :
    NamedBy allowed (Entries.insert entries (.str name) v) := by
  obtain ⟨names, distinct, within, keys⟩ := named
  by_cases there : name ∈ names
  case pos => exact ⟨names, distinct, within, keys_insert_of_mem v keys there⟩
  case neg =>
    refine ⟨names ++ [name], ?_, ?_, ?_⟩
    · exact distinct.append (List.nodup_singleton _) (List.disjoint_singleton.mpr there)
    · exact List.append_subset.mpr ⟨within, by simpa using known⟩
    · rw [insert_of_notMem v keys there]
      simpa [Entries.keys] using keys

theorem NamedBy.insertAll (named : NamedBy allowed entries) (others : NamedBy allowed more) :
    NamedBy allowed (Entries.insertAll entries more) := by
  obtain ⟨names, -, within, keys⟩ := others
  unfold Entries.insertAll
  induction more generalizing entries names with
  | nil => exact named
  | cons entry rest ih =>
    obtain ⟨k, v⟩ := entry
    cases names with
    | nil => cases keys
    | cons first others =>
      obtain ⟨rfl, keysRest⟩ := List.cons.inj keys
      have known : first ∈ allowed := within (List.mem_cons_self ..)
      exact ih (named.insert known v) others
        (fun _ mem => within (List.mem_cons_of_mem _ mem)) keysRest

end Entries

/-! ### Drawing -/

namespace Graph

theorem mem_grouped {endOf : Edge → String} {edges : List Edge} {e : Edge} :
    e ∈ grouped endOf edges ↔ e ∈ edges := by
  simp only [grouped, List.mem_flatMap, List.mem_eraseDups, List.mem_map,
    List.mem_filter, beq_iff_eq]
  constructor
  · rintro ⟨_, -, mem, -⟩
    exact mem
  · intro mem
    exact ⟨endOf e, ⟨e, mem, rfl⟩, mem, rfl⟩

theorem mem_nextTransitions {g : Graph} {id : String} {e : Edge} :
    e ∈ g.nextTransitions id ↔ e ∈ g.edges ∧ e.source = id := by
  simp [nextTransitions, Edge.sortByTarget, outEdges, mem_grouped]

theorem mem_prevTransitions {g : Graph} {id : String} {e : Edge} :
    e ∈ g.prevTransitions id ↔ e ∈ g.edges ∧ e.target = id := by
  simp [prevTransitions, inEdges, mem_grouped]

def ids (g : Graph) : List String := g.vertices.map (·.id)

theorem hasTask_iff {g : Graph} {id : String} : g.hasTask id = true ↔ id ∈ g.ids := by
  simp only [hasTask, ids, List.any_eq_true, beq_iff_eq, List.mem_map]

/-- What may be said of a task. A command waits for nothing and is not tried again. -/
def attributeNames (id : String) : List String :=
  if Command.isName id then ["splits"] else ["barrier", "splits", "retry"]

/-- What may be said of an edge. One that has been read tells its target and its key as well. -/
def edgeNames : List String := ["criteria", "ref", "id", "key"]

structure DrawnEdge (g : Graph) (e : Edge) : Prop where
  source : e.source ∈ g.ids
  target : e.target ∈ g.ids
  leaves : Command.isName e.source = false
  numbered : ∃ n : Nat, e.key = .int n
  attributes : Entries.NamedBy edgeNames e.attributes

def Parallel (e f : Edge) : Prop := e.source = f.source ∧ e.target = f.target ∧ e.key = f.key

structure Drawn (g : Graph) : Prop where
  about : g.about = []
  named : g.ids.Nodup
  attributes : ∀ v ∈ g.vertices, Entries.NamedBy (attributeNames v.id) v.attributes
  edges : ∀ e ∈ g.edges, g.DrawnEdge e
  distinct : g.edges.Pairwise fun e f => ¬Parallel e f

def Numbered (g : Graph) : Prop := ∀ e ∈ g.edges, ∃ n : Nat, e.key = .int n

variable {g : Graph} {id source target : String} {attributes : Entries}

theorem Drawn.numbered (drawn : g.Drawn) : g.Numbered := fun e mem => (drawn.edges e mem).numbered

theorem ids_setAttributes (g : Graph) (id : String) (attributes : Entries) :
    (g.setAttributes id attributes).ids = g.ids := by
  simp only [ids, setAttributes, List.map_map]
  refine List.map_congr_left fun v _ => ?_
  simp only [Function.comp]
  split <;> rfl

theorem mem_ids_addTask (g : Graph) (id : String) (attributes : Entries) :
    id ∈ (g.addTask id attributes).ids := by
  unfold addTask
  split
  case isTrue there =>
    rw [ids_setAttributes]
    exact hasTask_iff.mp there
  case isFalse => simp [ids]

theorem ids_subset_addTask (g : Graph) (id : String) (attributes : Entries) :
    g.ids ⊆ (g.addTask id attributes).ids := by
  unfold addTask
  split
  · rw [ids_setAttributes]
    exact List.Subset.refl _
  · simp [ids]

structure Addable (sayable : Entries → Prop) (attributes : Entries) : Prop where
  alone : sayable attributes
  added : ∀ old, sayable old → sayable (Entries.insertAll old attributes)

structure NeatEdge (onEdge : String → Entries → Prop) (g : Graph) (e : Edge) : Prop where
  source : e.source ∈ g.ids
  target : e.target ∈ g.ids
  numbered : ∃ n : Nat, e.key = .int n
  attributes : onEdge e.source e.attributes

/-- A graph in which tasks and edges are told apart, and in which only that is said of tasks, and of
the edges that leave them, which may be said of them. -/
structure Neat (onTask onEdge : String → Entries → Prop) (g : Graph) : Prop where
  about : g.about = []
  named : g.ids.Nodup
  attributes : ∀ v ∈ g.vertices, onTask v.id v.attributes
  edges : ∀ e ∈ g.edges, NeatEdge onEdge g e
  distinct : g.edges.Pairwise fun e f => ¬Parallel e f

section Neat

variable {onTask onEdge : String → Entries → Prop}

theorem neat_empty : Neat onTask onEdge empty where
  about := rfl
  named := List.nodup_nil
  attributes _ mem := by cases mem
  edges _ mem := by cases mem
  distinct := List.Pairwise.nil

theorem NeatEdge.mono {h : Graph} {e : Edge} (neat : NeatEdge onEdge g e) (grown : g.ids ⊆ h.ids) :
    NeatEdge onEdge h e :=
  { neat with source := grown neat.source, target := grown neat.target }

theorem Neat.mono {onTask' onEdge' : String → Entries → Prop} (neat : Neat onTask onEdge g)
    (tasks : ∀ id said, onTask id said → onTask' id said)
    (edges : ∀ source said, onEdge source said → onEdge' source said) : Neat onTask' onEdge' g :=
  { neat with
    attributes := fun v mem => tasks _ _ (neat.attributes v mem)
    edges := fun e mem =>
      { neat.edges e mem with attributes := edges _ _ (neat.edges e mem).attributes } }

theorem Neat.setAttributes (neat : Neat onTask onEdge g) (said : Addable (onTask id) attributes) :
    Neat onTask onEdge (g.setAttributes id attributes) where
  about := neat.about
  named := by
    rw [ids_setAttributes]
    exact neat.named
  attributes v mem := by
    obtain ⟨old, inOld, rfl⟩ := List.mem_map.mp mem
    split
    case isTrue same =>
      rw [← eq_of_beq same] at said
      exact said.added _ (neat.attributes old inOld)
    case isFalse => exact neat.attributes old inOld
  edges e mem := (neat.edges e mem).mono (ids_setAttributes g id attributes ▸ List.Subset.refl _)
  distinct := neat.distinct

theorem Neat.addTask (neat : Neat onTask onEdge g) (said : Addable (onTask id) attributes) :
    Neat onTask onEdge (g.addTask id attributes) := by
  have grown := ids_subset_addTask g id attributes
  by_cases there : g.hasTask id = true
  case pos =>
    rw [Graph.addTask, if_pos there]
    exact neat.setAttributes said
  case neg =>
    have new : id ∉ g.ids := fun known => there (hasTask_iff.mpr known)
    rw [Graph.addTask, if_neg there] at grown ⊢
    constructor
    case about => exact neat.about
    case named =>
      rw [ids, List.map_append]
      exact neat.named.append (List.nodup_singleton _) (List.disjoint_singleton.mpr new)
    case attributes =>
      intro v mem
      rcases List.mem_append.mp mem with old | isNew
      · exact neat.attributes v old
      · rw [List.mem_singleton.mp isNew]
        exact said.alone
    case edges => exact fun e mem => (neat.edges e mem).mono grown
    case distinct => exact neat.distinct

theorem int_beq_self (n : Int) : (Value.int n == Value.int n) = true := by
  change Value.same (.int n) (.int n) = true
  simp [Value.same, Value.sameNumber, Value.numeric?, Value.Numeric.same]

theorem Neat.addEdge (neat : Neat onTask onEdge g) {key : Value} (sourceThere : source ∈ g.ids)
    (targetThere : target ∈ g.ids) (numbered : key = .null ∨ ∃ n : Nat, key = .int n)
    (said : Addable (onEdge source) attributes) :
    Neat onTask onEdge (g.addEdge source target key attributes) := by
  unfold Graph.addEdge
  dsimp only
  have known : ∃ n : Nat, (if key.isNull then
      .int (freeKey (g.between source target) (g.between source target).length
        (g.between source target).length)
      else key) = Value.int n := by
    rcases numbered with rfl | ⟨n, rfl⟩
    · exact ⟨_, rfl⟩
    · exact ⟨n, rfl⟩
  obtain ⟨n, same⟩ := known
  rw [same]
  split
  case isTrue =>
    have renewed (e : Edge) : ∃ more,
        (if e.source == source && e.target == target && e.key == .int n then
        { e with attributes := Entries.insertAll e.attributes attributes } else e) =
        { e with attributes := more } ∧ (onEdge e.source e.attributes → onEdge e.source more) := by
      split
      case isTrue isThis =>
        simp only [Bool.and_eq_true, beq_iff_eq] at isThis
        exact ⟨_, rfl, isThis.1.1 ▸ said.added _⟩
      case isFalse => exact ⟨e.attributes, rfl, fun old => old⟩
    constructor
    case about => exact neat.about
    case named => exact neat.named
    case attributes => exact neat.attributes
    case edges =>
      intro e mem
      obtain ⟨old, inOld, rfl⟩ := List.mem_map.mp mem
      obtain ⟨more, changed, keeps⟩ := renewed old
      rw [changed]
      exact { neat.edges old inOld with attributes := keeps (neat.edges old inOld).attributes }
    case distinct =>
      refine List.pairwise_map.mpr (neat.distinct.imp fun {e f} apart => ?_)
      obtain ⟨_, changed, -⟩ := renewed e
      obtain ⟨_, changed', -⟩ := renewed f
      rw [changed, changed']
      exact apart
  case isFalse new =>
    constructor
    case about => exact neat.about
    case named => exact neat.named
    case attributes => exact neat.attributes
    case edges =>
      intro e mem
      rcases List.mem_append.mp mem with old | isNew
      · exact { neat.edges e old with }
      · rw [List.mem_singleton.mp isNew]
        exact ⟨sourceThere, targetThere, ⟨n, rfl⟩, said.alone⟩
    case distinct =>
      refine List.pairwise_append.mpr ⟨neat.distinct, List.pairwise_singleton _ _,
        fun e old f isNew same => new ?_⟩
      rw [List.mem_singleton.mp isNew] at same
      refine List.any_eq_true.mpr ⟨e, List.mem_filter.mpr ⟨old, ?_⟩, ?_⟩
      · simp [same.1, same.2.1]
      · rw [same.2.2]
        exact int_beq_self n

theorem Neat.addTransition (neat : Neat onTask onEdge g) (nothing : ∀ id, onTask id [])
    (said : Addable (onEdge source) attributes) :
    Neat onTask onEdge (g.addTransition source target .null attributes) := by
  have silent (id : String) : Addable (onTask id) [] := ⟨nothing id, fun _ old => old⟩
  refine ((neat.addTask (silent source)).addTask (silent target)).addEdge ?_ ?_ (.inl rfl) said
  · exact ids_subset_addTask _ _ _ (mem_ids_addTask g source [])
  · exact mem_ids_addTask _ target []

theorem only_eq_ok {edges : List Edge} {e : Edge} (found : only source target edges = .ok e) :
    e ∈ edges := by
  unfold only at found
  split at found
  · cases found
  · cases found
    exact List.mem_singleton_self _
  · cases found

theorem transition_eq_ok {key : Value} {constraints : List (String × Value)} {e : Edge}
    (found : g.transition source target key constraints = .ok e) :
    e ∈ g.edges ∧ e.source = source ∧ e.target = target := by
  have between : e ∈ g.between source target := by
    have one := only_eq_ok found
    split at one
    · exact List.mem_of_mem_filter one
    · exact List.mem_of_mem_filter one
  obtain ⟨inEdges, ends⟩ := List.mem_filter.mp between
  simp only [Bool.and_eq_true, beq_iff_eq] at ends
  exact ⟨inEdges, ends.1, ends.2⟩

theorem Neat.updateTransition {h : Graph} {key : Value} (neat : Neat onTask onEdge g)
    (said : (∃ old, onEdge source old) → Addable (onEdge source) attributes)
    (updated : g.updateTransition source target key attributes = .ok h) : Neat onTask onEdge h := by
  obtain ⟨e, found, updated⟩ := bind_eq_ok.mp updated
  obtain ⟨inEdges, rfl, rfl⟩ := transition_eq_ok found
  have known := neat.edges e inEdges
  cases Except.ok.inj updated
  exact neat.addEdge known.source known.target (.inr known.numbered) (said ⟨_, known.attributes⟩)

theorem Neat.updateTask {h : Graph} (neat : Neat onTask onEdge g)
    (said : Addable (onTask id) attributes) (updated : g.updateTask id attributes = .ok h) :
    Neat onTask onEdge h := by
  unfold Graph.updateTask at updated
  split at updated
  · cases updated
    exact neat.setAttributes said
  · cases updated

end Neat

/-! ### Drawn graphs -/

theorem drawn_iff : g.Drawn ↔ Neat (fun id => Entries.NamedBy (attributeNames id))
    (fun source said => Command.isName source = false ∧ Entries.NamedBy edgeNames said) g := by
  constructor
  · intro drawn
    refine ⟨drawn.about, drawn.named, drawn.attributes, fun e mem => ?_, drawn.distinct⟩
    obtain ⟨source, target, leaves, numbered, named⟩ := drawn.edges e mem
    exact ⟨source, target, numbered, leaves, named⟩
  · intro neat
    refine ⟨neat.about, neat.named, neat.attributes, fun e mem => ?_, neat.distinct⟩
    obtain ⟨source, target, numbered, leaves, named⟩ := neat.edges e mem
    exact ⟨source, target, leaves, numbered, named⟩

theorem drawn_empty : empty.Drawn := drawn_iff.mpr neat_empty

theorem addable_of_namedBy {allowed : List String} (named : Entries.NamedBy allowed attributes) :
    Addable (Entries.NamedBy allowed) attributes := ⟨named, fun _ old => old.insertAll named⟩

theorem addable_edge (leaves : Command.isName source = false)
    (named : Entries.NamedBy edgeNames attributes) :
    Addable (fun said => Command.isName source = false ∧
      Entries.NamedBy edgeNames said) attributes :=
  ⟨⟨leaves, named⟩, fun _ old => ⟨leaves, old.2.insertAll named⟩⟩

theorem Drawn.addTask (drawn : g.Drawn) (named : Entries.NamedBy (attributeNames id) attributes) :
    (g.addTask id attributes).Drawn :=
  drawn_iff.mpr ((drawn_iff.mp drawn).addTask (addable_of_namedBy named))

theorem Drawn.addTransition (drawn : g.Drawn) (leaves : Command.isName source = false)
    (named : Entries.NamedBy edgeNames attributes) :
    (g.addTransition source target .null attributes).Drawn := by
  refine drawn_iff.mpr ((drawn_iff.mp drawn).addTransition (fun id => ?_)
    (addable_edge leaves named))
  exact ⟨[], List.nodup_nil, List.nil_subset _, rfl⟩

theorem Drawn.updateTransition {h : Graph} {key : Value} (drawn : g.Drawn)
    (named : Entries.NamedBy edgeNames attributes)
    (updated : g.updateTransition source target key attributes = .ok h) : h.Drawn := by
  refine drawn_iff.mpr ((drawn_iff.mp drawn).updateTransition ?_ updated)
  rintro ⟨_, leaves, -⟩
  exact addable_edge leaves named

theorem Drawn.updateTask {h : Graph} (drawn : g.Drawn)
    (named : Entries.NamedBy (attributeNames id) attributes)
    (updated : g.updateTask id attributes = .ok h) : h.Drawn :=
  drawn_iff.mpr ((drawn_iff.mp drawn).updateTask (addable_of_namedBy named) updated)

end Graph

/-! ### Flows -/

namespace Flow

open Orchestration.Graph (Drawn attributeNames edgeNames)

variable {flow : Flow} {source name : String} {splits : List String}

theorem drawn_draw {g h : Graph} {link : Link} (drawn : g.Drawn)
    (leaves : Command.isName source = false) (drew : draw g source link = .ok h) : h.Drawn := by
  have named : Entries.NamedBy edgeNames
      [(.str "criteria", criteria link.condition), (.str "ref", .int link.branch)] :=
    ⟨["criteria", "ref"], by decide, by decide, rfl⟩
  unfold draw at drew
  dsimp only at drew
  split at drew
  · exact drawn.updateTransition named drew
  · cases Except.ok.inj drew
    exact drawn.addTransition leaves named

theorem graph_goOn (c : Composing) (target : String) (splits : List String) :
    (c.goOn target splits).1.graph = c.graph := by
  unfold Composing.goOn
  dsimp only
  split <;> rfl

theorem drawn_drawLinks {links : List Link} {c last : Composing}
    {more : List (String × List String)} (drawn : c.graph.Drawn)
    (leaves : links ≠ [] → Command.isName source = false)
    (drew : flow.drawLinks source splits c links = .ok (last, more)) : last.graph.Drawn := by
  induction links generalizing c more with
  | nil =>
    cases drew
    exact drawn
  | cons link rest ih =>
    have noCommand := leaves (List.cons_ne_nil _ _)
    unfold drawLinks at drew
    split at drew
    · obtain ⟨g, updated, drew⟩ := bind_eq_ok.mp drew
      refine ih (drawn.updateTask ?_ updated) (fun _ => noCommand) drew
      refine ⟨["retry"], List.nodup_singleton _, ?_, rfl⟩
      simp [attributeNames, noCommand]
    · have goes (isOpen : Bool) :
          (if isOpen = true then c.goOn link.task splits else (c, [])).1.graph = c.graph := by
        cases isOpen with
        | false => rfl
        | true => exact graph_goOn c link.task splits
      have further {reached : Composing × List (String × List String)}
          (same : reached.1.graph = c.graph) (drew : (do
            let graph ← draw reached.1.graph source link
            let next ← flow.drawLinks source splits { reached.1 with graph := graph } rest
            .ok (next.1, reached.2 ++ next.2)) = Except.ok (last, more)) : last.graph.Drawn := by
        obtain ⟨g, drewOne, drew⟩ := bind_eq_ok.mp drew
        obtain ⟨⟨d, others⟩, drewRest, drew⟩ := bind_eq_ok.mp drew
        cases Except.ok.inj drew
        rw [same] at drewOne
        exact ih (drawn_draw drawn noCommand drewOne) (fun _ => noCommand) drewRest
      dsimp only at drew
      split at drew
      · obtain ⟨inCycle, -, drew⟩ := bind_eq_ok.mp drew
        exact further (goes (!inCycle)) drew
      · exact further (goes true) drew

theorem step_of_isName {step : Step} (found : flow.step name = .ok step)
    (command : Command.isName name = true) : step = Step.ofCommand name := by
  unfold Flow.step at found
  rw [if_pos command] at found
  exact (Except.ok.inj found).symm

theorem namedBy_attributesOf {step : Step} (found : flow.step name = .ok step)
    (splits : List String) : Entries.NamedBy (attributeNames name) (attributesOf step splits) := by
  unfold attributesOf
  by_cases command : Command.isName name = true
  case pos =>
    rw [step_of_isName found command, attributeNames, if_pos command]
    refine ⟨if splits.isEmpty then [] else ["splits"], ?_, ?_, ?_⟩
    · split <;> simp
    · split <;> simp
    · cases splits <;> rfl
  case neg =>
    rw [attributeNames, if_neg command]
    refine ⟨(if step.isJoin then ["barrier"] else []) ++
      (if splits.isEmpty then [] else ["splits"]) ++
      (if step.retry.truthy then ["retry"] else []), ?_, ?_, ?_⟩
    all_goals
      cases step.isJoin <;> cases splits.isEmpty <;> cases step.retry.truthy <;> simp [Entries.keys]

theorem drawn_composeStep {c last : Composing} {item : String × List String}
    {more : List (String × List String)} (drawn : c.graph.Drawn)
    (visited : flow.composeStep c item = .ok (last, more)) : last.graph.Drawn := by
  obtain ⟨name, splits⟩ := item
  obtain ⟨step, found, visited⟩ := bind_eq_ok.mp visited
  have leaves : step.links ≠ [] → Command.isName name = false := by
    intro linked
    by_contra command
    rw [step_of_isName found (by simpa using command)] at linked
    exact linked (by simp [Step.links, Step.linksInOrder, Step.ofCommand, Link.sort])
  have rest (splits : List String)
      (drew : flow.drawLinks name splits
        { c with graph := c.graph.addTask name (attributesOf step splits) }
        step.links = .ok (last, more)) : last.graph.Drawn :=
    drawn_drawLinks (drawn.addTask (namedBy_attributesOf found splits)) leaves drew
  obtain ⟨isSplit, -, visited⟩ := bind_eq_ok.mp visited
  dsimp only at visited
  split at visited
  · obtain ⟨inCycle, -, visited⟩ := bind_eq_ok.mp visited
    obtain ⟨isFork, -, visited⟩ := bind_eq_ok.mp visited
    obtain ⟨-, -, visited⟩ := bind_eq_ok.mp visited
    exact rest _ visited
  · obtain ⟨isFork, -, visited⟩ := bind_eq_ok.mp visited
    obtain ⟨-, -, visited⟩ := bind_eq_ok.mp visited
    exact rest _ visited

theorem drawn_compose {g : Graph} (composed : flow.compose = .ok g) : g.Drawn := by
  obtain ⟨c, done, composed⟩ := bind_eq_ok.mp composed
  cases Except.ok.inj composed
  exact Worklist.run_drain (fun c _ => c.graph.Drawn)
    (fun _ _ _ _ _ drawn visited => drawn_composeStep drawn visited) Graph.drawn_empty done

end Flow

theorem Spec.drawn_compose {spec : Spec} {g : Graph} (composed : spec.compose = .ok g) :
    g.Drawn := by
  unfold Spec.compose Spec.composeWith at composed
  dsimp only at composed
  rw [bne_self_eq_false, if_neg Bool.false_ne_true] at composed
  split at composed
  · obtain ⟨tasks, -, composed⟩ := bind_eq_ok.mp composed
    split at composed
    · obtain ⟨flow, -, composed⟩ := bind_eq_ok.mp composed
      exact Flow.drawn_compose composed
    · cases composed
  · cases Except.ok.inj composed
    exact Graph.drawn_empty

end Orchestration
