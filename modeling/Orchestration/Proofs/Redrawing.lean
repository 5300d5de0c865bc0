import Mathlib.Data.List.Flatten
import Orchestration.Graph.Persistence
import Orchestration.Proofs.Composition
import Orchestration.Proofs.Rereading

/-!
Graphs that are written and read.

The graph that is read has the same tasks and the same edges. The edges are in another order, and
each of them tells its target and its key as well.
-/

namespace Orchestration

/-! ### Rewriting values -/

namespace Entries

def mapValues (f : Value → Value) (entries : Entries) : Entries :=
  entries.map fun (k, v) => (k, f v)

@[simp]
theorem keys_mapValues (f : Value → Value) (entries : Entries) :
    keys (mapValues f entries) = keys entries := by
  simp [keys, mapValues]

theorem NamedBy.mapValues {allowed : List String} {entries : Entries}
    (named : NamedBy allowed entries) (f : Value → Value) :
    NamedBy allowed (mapValues f entries) := by
  obtain ⟨names, distinct, within, same⟩ := named
  exact ⟨names, distinct, within, (keys_mapValues f entries).trans same⟩

theorem NamedBy.textKeys {allowed : List String} {entries : Entries}
    (named : NamedBy allowed entries) : TextKeys entries := by
  obtain ⟨names, distinct, -, same⟩ := named
  exact ⟨names, distinct, same⟩

theorem NamedBy.notMem {allowed : List String} {entries : Entries}
    (named : NamedBy allowed entries) {key : String} (new : key ∉ allowed) :
    Value.str key ∉ keys entries := by
  obtain ⟨names, -, within, same⟩ := named
  rw [same]
  simpa using fun there => new (within there)

theorem TextKeys.insert {entries : Entries} (keys : TextKeys entries) (key : String) (v : Value) :
    TextKeys (insertStr entries key v) := by
  obtain ⟨names, distinct, same⟩ := keys
  have named : NamedBy (key :: names) entries :=
    ⟨names, distinct, List.subset_cons_self key names, same⟩
  exact (named.insert (List.mem_cons_self ..) v).textKeys

theorem getStr?_mapValues (f : Value → Value) (entries : Entries) (key : String) :
    getStr? (mapValues f entries) key = (getStr? entries key).map f := by
  simp only [getStr?, get?, mapValues, List.find?_map, Option.map_map]
  rfl

theorem getStr?_insertStr_self (entries : Entries) (key : String) (v : Value) :
    getStr? (insertStr entries key v) key = some v := by
  simp only [getStr?, get?, insertStr]
  induction entries with
  | nil => simp [insert, Value.str_beq]
  | cons entry rest ih =>
    obtain ⟨k, w⟩ := entry
    rw [insert]
    split
    case isTrue same => simp [same]
    case isFalse other => simpa [other] using ih

theorem getStr?_insertStr_of_ne {key other : String} (different : other ≠ key)
    (entries : Entries) (v : Value) :
    getStr? (insertStr entries key v) other = getStr? entries other := by
  simp only [getStr?, get?, insertStr]
  induction entries with
  | nil => simp [insert, Value.str_beq, different.symm]
  | cons entry rest ih =>
    obtain ⟨k, w⟩ := entry
    rw [insert]
    split
    case isTrue same =>
      have elsewhere : (Value.str key == Value.str other) = false := by
        rw [Value.str_beq]
        exact beq_false_of_ne different.symm
      rw [Value.eq_str_of_beq same]
      simp [elsewhere]
    case isFalse =>
      simp only [List.find?_cons]
      split
      · rfl
      · exact ih

theorem eraseStr_mapValues (f : Value → Value) (entries : Entries) (key : String) :
    eraseStr (mapValues f entries) key = mapValues f (eraseStr entries key) := by
  simp only [eraseStr, erase, mapValues, List.filter_map]
  rfl

theorem eraseStr_insertStr {entries : Entries} (keys : TextKeys entries) {key : String}
    (new : Value.str key ∉ Entries.keys entries) (v : Value) :
    eraseStr (insertStr entries key v) key = entries := by
  obtain ⟨names, -, same⟩ := keys
  have unnamed : key ∉ names := fun there => new (same ▸ List.mem_map_of_mem there)
  have kept : ∀ entry ∈ entries, (!(entry.1 == Value.str key)) = true := by
    intro entry mem
    have inKeys : entry.1 ∈ names.map Value.str := same ▸ List.mem_map_of_mem mem
    obtain ⟨name, inNames, isName⟩ := List.mem_map.mp inKeys
    rw [← isName, Value.str_beq, Bool.not_eq_true']
    exact beq_false_of_ne fun equal => unnamed (equal ▸ inNames)
  unfold insertStr eraseStr erase
  rw [insert_of_notMem v same unnamed, List.filter_append, List.filter_eq_self.mpr kept]
  simp [Value.str_beq]

end Entries

namespace Value

/-- What writing and reading may do to a value: it acts on the parts of a value alike, and keeps
text and whole numbers. -/
structure Rewrites (f : Value → Value) : Prop where
  str : ∀ text, f (.str text) = .str text
  int : ∀ n, f (.int n) = .int n
  list : ∀ items, f (.list items) = .list (items.map f)
  map : ∀ entries, Entries.TextKeys entries → f (.map entries) = .map (Entries.mapValues f entries)
  tidy : ∀ v, Tidy v → f v = v

theorem rewrites_id : Rewrites id where
  str _ := rfl
  int _ := rfl
  list items := by rw [List.map_id]; rfl
  map entries _ := by simp [Entries.mapValues]
  tidy _ _ := rfl

theorem replainEntries_eq_map {entries : Entries} (keys : Entries.TextKeys entries) :
    replainEntries entries = Entries.mapValues replain entries := by
  obtain ⟨names, -, same⟩ := keys
  induction entries generalizing names with
  | nil => rfl
  | cons entry rest ih =>
    obtain ⟨k, v⟩ := entry
    cases names with
    | nil => cases same
    | cons first others =>
      obtain ⟨rfl, sameRest⟩ := List.cons.inj same
      rw [replainEntries, plainKey, ih others sameRest]
      rfl

theorem rewrites_replain : Rewrites replain where
  str _ := by simp [replain]
  int _ := by simp [replain]
  list items := by rw [replain, replainItems_eq_map]
  map entries keys := by
    have kept : Entries.TextKeys (Entries.mapValues replain entries) := by
      obtain ⟨names, distinct, same⟩ := keys
      exact ⟨names, distinct, (Entries.keys_mapValues replain entries).trans same⟩
    rw [replain, replainEntries_eq_map keys, Entries.ofList_of_textKeys kept]
  tidy _ := replain_of_tidy

theorem copy_eq_rewrite (v : Value) : ∃ f, Rewrites f ∧ v.copy = f v := by
  unfold copy
  split
  · exact ⟨replain, rewrites_replain, rfl⟩
  · exact ⟨id, rewrites_id, rfl⟩

end Value

/-! ### The graph that is read -/

def Vertex.redrawn (f : Value → Value) (v : Vertex) : Vertex :=
  { v with attributes := Entries.mapValues f v.attributes }

def Edge.redrawn (f : Value → Value) (e : Edge) : Edge :=
  { e with
    attributes :=
      Entries.mapValues f
        (Entries.insertStr (Entries.insertStr e.attributes "id" (.str e.target)) "key" e.key) }

namespace Graph

def redrawn (f : Value → Value) (g : Graph) : Graph where
  vertices := g.vertices.map (·.redrawn f)
  edges := g.vertices.flatMap fun v => (g.nextTransitions v.id).map (·.redrawn f)
  about := []

variable {f : Value → Value} {g h : Graph}

theorem ids_redrawn (f : Value → Value) (g : Graph) : (g.redrawn f).ids = g.ids := by
  simp [ids, redrawn, Vertex.redrawn]

theorem nodup_eraseDups : ∀ names : List String, names.eraseDups.Nodup
  | [] => List.nodup_nil
  | name :: rest => by
    rw [List.eraseDups_cons]
    refine List.nodup_cons.mpr ⟨?_, nodup_eraseDups _⟩
    simp [List.mem_eraseDups]
termination_by names => names.length
decreasing_by exact Nat.lt_succ_of_le (List.length_filter_le _ _)

theorem distinct_nextTransitions (distinct : g.edges.Pairwise fun e f => ¬Parallel e f)
    (id : String) : (g.nextTransitions id).Pairwise fun e f => ¬Parallel e f := by
  have sameEnds : (g.outEdges id).Pairwise fun e f => ¬Parallel e f := by
    refine List.pairwise_flatMap.mpr
      ⟨fun target _ => ?_, (nodup_eraseDups _).imp fun apart e left f right same => ?_⟩
    · exact distinct.sublist (List.filter_sublist.trans List.filter_sublist)
    · simp only [List.mem_filter, beq_iff_eq] at left right
      exact apart (left.2.symm.trans (same.2.1.trans right.2))
  exact (List.mergeSort_perm _ _).symm.pairwise sameEnds fun apart same =>
    apart ⟨same.1.symm, same.2.1.symm, same.2.2.symm⟩

theorem DrawnEdge.redrawn {e : Edge} (drawn : g.DrawnEdge e) (f : Value → Value) :
    (g.redrawn f).DrawnEdge (e.redrawn f) where
  source := ids_redrawn f g ▸ drawn.source
  target := ids_redrawn f g ▸ drawn.target
  leaves := drawn.leaves
  numbered := drawn.numbered
  attributes := ((drawn.attributes.insert (by decide) _).insert (by decide) _).mapValues f

theorem Drawn.redrawn (drawn : g.Drawn) (f : Value → Value) : (g.redrawn f).Drawn where
  about := rfl
  named := ids_redrawn f g ▸ drawn.named
  attributes v mem := by
    obtain ⟨old, inOld, rfl⟩ := List.mem_map.mp mem
    exact (drawn.attributes old inOld).mapValues f
  edges e mem := by
    obtain ⟨v, -, inMap⟩ := List.mem_flatMap.mp mem
    obtain ⟨old, inNext, rfl⟩ := List.mem_map.mp inMap
    exact (drawn.edges old (mem_nextTransitions.mp inNext).1).redrawn f
  distinct := by
    refine List.pairwise_flatMap.mpr ⟨fun v _ => ?_, ?_⟩
    · exact List.pairwise_map.mpr (distinct_nextTransitions drawn.distinct v.id)
    · refine (List.pairwise_map.mp drawn.named).imp fun {v w} apart e left f right same => apart ?_
      obtain ⟨e, inNext, rfl⟩ := List.mem_map.mp left
      obtain ⟨f, inNext', rfl⟩ := List.mem_map.mp right
      exact (mem_nextTransitions.mp inNext).2.symm.trans
        (same.1.trans (mem_nextTransitions.mp inNext').2)

/-! ### Reading what has been written -/

/-- A graph that can be written: what is said of tasks and edges is said under names, and no task
has an attribute where its own name is written. -/
abbrev Writable (g : Graph) : Prop :=
  Neat (fun _ said => Entries.TextKeys said ∧ Value.str "id" ∉ Entries.keys said)
    (fun _ said => Entries.TextKeys said) g

theorem setAttributes_nil (g : Graph) (id : String) : g.setAttributes id [] = g := by
  simp [setAttributes, Entries.insertAll]

theorem addTask_nil {id : String} (there : id ∈ g.ids) : g.addTask id [] = g := by
  rw [addTask, if_pos (hasTask_iff.mpr there), setAttributes_nil]

theorem rewrite_fields (rewrites : Value.Rewrites f) {named : List (String × Value)}
    (distinct : (named.map Prod.fst).Nodup) :
    f (.fields named) = .fields (named.map fun (k, v) => (k, f v)) := by
  rw [Value.fields, rewrites.map _ ⟨named.map Prod.fst, distinct, by simp [Entries.keys]⟩]
  simp [Value.fields, Entries.mapValues]

theorem rewrite_vertexData (rewrites : Value.Rewrites f) {v : Vertex}
    (keys : Entries.TextKeys v.attributes) :
    f (vertexData v) = .map
      (Entries.mapValues f (Entries.insertStr v.attributes "id" (.str v.id))) :=
  rewrites.map _ (keys.insert "id" _)

theorem rewrite_edgeData (rewrites : Value.Rewrites f) {e : Edge}
    (keys : Entries.TextKeys e.attributes) : f (edgeData e) = .map (e.redrawn f).attributes :=
  rewrites.map _ ((keys.insert "id" _).insert "key" _)

theorem unnamed_id (id : String) : "id" ∉ attributeNames id := by
  unfold attributeNames
  split <;> decide

theorem fieldOf_fields {named : List (String × Value)} {key : String} {v : Value}
    (found : named.lookup key = some v) : fieldOf (.fields named) key = .ok v := by
  have there := (Value.field?_fields named key).trans found
  simp only [Value.fields, Value.field?] at there
  simp only [fieldOf, Value.fields, there]

theorem fieldOf_map {entries : Entries} {key : String} {v : Value}
    (found : Entries.getStr? entries key = some v) : fieldOf (.map entries) key = .ok v := by
  simp only [fieldOf, found]

theorem readVertex_written (rewrites : Value.Rewrites f) {v : Vertex}
    (keys : Entries.TextKeys v.attributes) (unnamed : Value.str "id" ∉ Entries.keys v.attributes)
    (new : v.id ∉ h.ids) :
    readVertex h (f (vertexData v)) =
      .ok ({ h with vertices := h.vertices ++ [v.redrawn f] }, v.id) := by
  have found : Entries.getStr?
      (Entries.mapValues f (Entries.insertStr v.attributes "id" (.str v.id))) "id" =
      some (.str v.id) := by
    rw [Entries.getStr?_mapValues, Entries.getStr?_insertStr_self, Option.map_some, rewrites.str]
  have erased := Entries.eraseStr_insertStr keys unnamed (.str v.id)
  rw [rewrite_vertexData rewrites keys]
  refine bind_eq_ok.mpr ⟨_, rfl, bind_eq_ok.mpr ⟨_, fieldOf_map found, ?_⟩⟩
  rw [Entries.eraseStr_mapValues, erased]
  simp only [Value.text]
  rw [addTask, if_neg fun there => new (hasTask_iff.mp there)]
  rfl

theorem readVertices_written (rewrites : Value.Rewrites f) {vertices : List Vertex}
    (said : ∀ v ∈ vertices, Entries.TextKeys v.attributes ∧
      Value.str "id" ∉ Entries.keys v.attributes)
    (distinct : (h.ids ++ vertices.map (·.id)).Nodup) :
    readVertices h (vertices.map fun v => f (vertexData v)) =
      .ok ({ h with vertices := h.vertices ++ vertices.map (·.redrawn f) },
        vertices.map (·.id)) := by
  induction vertices generalizing h with
  | nil => simp [readVertices]
  | cons v rest ih =>
    have new : v.id ∉ h.ids := fun there =>
      (List.nodup_append.mp distinct).2.2 _ there _ (List.mem_cons_self ..) rfl
    have ⟨keys, unnamed⟩ := said v (List.mem_cons_self ..)
    have read := readVertex_written rewrites keys unnamed new
    have others := ih (h := { h with vertices := h.vertices ++ [v.redrawn f] })
      (fun w mem => said w (List.mem_cons_of_mem _ mem))
      (by simpa [ids, Vertex.redrawn] using distinct)
    refine bind_eq_ok.mpr ⟨_, read, bind_eq_ok.mpr ⟨_, others, ?_⟩⟩
    simp

theorem eq_of_int_beq {n m : Int} (same : (Value.int n == .int m) = true) : n = m := by
  change Value.same (.int n) (.int m) = true at same
  simpa [Value.same, Value.sameNumber, Value.numeric?, Value.Numeric.same] using same

theorem readEdge_written (rewrites : Value.Rewrites f) (numbered : h.Numbered) {e : Edge}
    (neat : NeatEdge (fun _ said => Entries.TextKeys said) h e)
    (new : ∀ other ∈ h.edges, ¬Parallel other e) :
    readEdge h e.source (f (edgeData e)) = .ok { h with edges := h.edges ++ [e.redrawn f] } := by
  obtain ⟨n, key⟩ := neat.numbered
  have target : Entries.getStr? (e.redrawn f).attributes "id" = some (.str e.target) := by
    rw [Edge.redrawn, Entries.getStr?_mapValues, Entries.getStr?_insertStr_of_ne (by decide),
      Entries.getStr?_insertStr_self, Option.map_some, rewrites.str]
  have number : Entries.getStr? (e.redrawn f).attributes "key" = some (.int n) := by
    rw [Edge.redrawn, Entries.getStr?_mapValues, Entries.getStr?_insertStr_self, Option.map_some,
      key, rewrites.int]
  have unknown : ¬(h.between e.source e.target).any (·.key == .int n) = true := by
    intro known
    obtain ⟨other, inBetween, same⟩ := List.any_eq_true.mp known
    obtain ⟨inEdges, ends⟩ := List.mem_filter.mp inBetween
    obtain ⟨m, otherKey⟩ := numbered other inEdges
    rw [otherKey] at same
    simp only [Bool.and_eq_true, beq_iff_eq] at ends
    exact new other inEdges ⟨ends.1, ends.2, by rw [otherKey, key, eq_of_int_beq same]⟩
  rw [rewrite_edgeData rewrites neat.attributes]
  refine bind_eq_ok.mpr ⟨_, rfl, bind_eq_ok.mpr ⟨_, fieldOf_map target, ?_⟩⟩
  rw [number]
  simp only [Value.isNull, Bool.false_eq_true, if_false, Value.text]
  rw [addTransition, addTask_nil neat.source, addTask_nil neat.target]
  simp only [addEdge, Value.isNull, Bool.false_eq_true, if_false]
  rw [if_neg unknown, ← key]
  rfl

theorem readEdgesOf_written (rewrites : Value.Rewrites f) {id : String} {edges : List Edge}
    (numbered : h.Numbered)
    (neat : ∀ e ∈ edges, NeatEdge (fun _ said => Entries.TextKeys said) h e ∧ e.source = id)
    (distinct : edges.Pairwise fun e f => ¬Parallel e f)
    (new : ∀ other ∈ h.edges, ∀ e ∈ edges, ¬Parallel other e) :
    (edges.map fun e => f (edgeData e)).foldlM (fun g e => readEdge g id e) h =
      .ok { h with edges := h.edges ++ edges.map (·.redrawn f) } := by
  induction edges generalizing h with
  | nil => simp [pure, Except.pure]
  | cons e rest ih =>
    obtain ⟨neatHere, rfl⟩ := neat e (List.mem_cons_self ..)
    obtain ⟨apart, distinctRest⟩ := List.pairwise_cons.mp distinct
    have read := readEdge_written rewrites numbered neatHere fun other there =>
      new other there e (List.mem_cons_self ..)
    rw [List.map_cons, List.foldlM_cons]
    refine bind_eq_ok.mpr ⟨_, read, ?_⟩
    rw [ih ?_ ?_ distinctRest ?_]
    · simp
    · intro other mem
      rcases List.mem_append.mp mem with old | isNew
      · exact numbered other old
      · rw [List.mem_singleton.mp isNew]
        exact neatHere.numbered
    · intro other mem
      obtain ⟨neatOther, source⟩ := neat other (List.mem_cons_of_mem _ mem)
      exact ⟨{ neatOther with }, source⟩
    · intro other mem later inRest
      rcases List.mem_append.mp mem with old | isNew
      · exact new other old later (List.mem_cons_of_mem _ inRest)
      · rw [List.mem_singleton.mp isNew]
        exact apart later inRest

theorem readEdges_written (rewrites : Value.Rewrites f) (writable : g.Writable)
    {vertices : List Vertex} (same : h.ids = g.ids) (numbered : h.Numbered)
    (distinct : (vertices.map (·.id)).Nodup) (new : ∀ e ∈ h.edges, e.source ∉ vertices.map (·.id)) :
    readEdges h (vertices.map (·.id))
        (vertices.map fun v => f (.list ((g.nextTransitions v.id).map edgeData))) =
      .ok { h with
        edges := h.edges ++ vertices.flatMap fun v => (g.nextTransitions v.id).map
          (·.redrawn f) } := by
  induction vertices generalizing h with
  | nil => simp [readEdges]
  | cons v rest ih =>
    obtain ⟨notInRest, distinctRest⟩ := List.nodup_cons.mp distinct
    dsimp only at notInRest
    have known : ∀ e ∈ g.nextTransitions v.id, NeatEdge (fun _ said => Entries.TextKeys said) h e ∧
        e.source = v.id := fun e mem =>
      ⟨(writable.edges e (mem_nextTransitions.mp mem).1).mono (same ▸ List.Subset.refl _),
        (mem_nextTransitions.mp mem).2⟩
    have read :=
      readEdgesOf_written rewrites numbered known (distinct_nextTransitions writable.distinct v.id)
      fun other there e mem parallel =>
        new other there (by rw [parallel.1, (known e mem).2]; exact List.mem_cons_self ..)
    rw [List.map_cons, List.map_cons, rewrites.list, List.map_map]
    refine bind_eq_ok.mpr ⟨_, rfl, bind_eq_ok.mpr ⟨_, read, ?_⟩⟩
    have sameIds :
        ({ h with edges := h.edges ++ (g.nextTransitions v.id).map (·.redrawn f) } :
          Graph).ids = g.ids := same
    refine (ih sameIds ?_ distinctRest ?_).trans ?_
    · intro e mem
      rcases List.mem_append.mp mem with old | isNew
      · exact numbered e old
      · obtain ⟨e, inNext, rfl⟩ := List.mem_map.mp isNew
        exact (known e inNext).1.numbered
    · intro e mem inRest
      rcases List.mem_append.mp mem with old | isNew
      · exact new e old (List.mem_cons_of_mem _ inRest)
      · obtain ⟨e, inNext, rfl⟩ := List.mem_map.mp isNew
        rw [← (known e inNext).2] at notInRest
        exact notInRest inRest
    · simp

/-- A graph that has been written is read as it was, edge by edge. -/
theorem Writable.deserialize_serialize (writable : g.Writable) :
    ∃ f, Value.Rewrites f ∧ deserialize g.serialize = .ok (g.redrawn f) := by
  obtain ⟨f, rewrites, copied⟩ := Value.copy_eq_rewrite g.serialize
  refine ⟨f, rewrites, ?_⟩
  have written : f g.serialize = .fields
      [("directed", f (.bool true)), ("multigraph", f (.bool true)), ("graph", f (.list [])),
       ("nodes", f (.list (g.vertices.map vertexData))),
       ("adjacency",
         f (.list (g.vertices.map fun v => .list ((g.nextTransitions v.id).map edgeData))))] := by
    rw [serialize, writable.about, rewrite_fields rewrites]
    · rfl
    · change ["directed", "multigraph", "graph", "nodes", "adjacency"].Nodup
      decide
  rw [rewrites.list [], rewrites.list (g.vertices.map _),
    rewrites.list (g.vertices.map _), List.map_map, List.map_map] at written
  have readVertices := readVertices_written (h := empty) rewrites writable.attributes writable.named
  have readEdges := readEdges_written (h := { g.redrawn f with edges := [] }) rewrites writable
    (ids_redrawn f g) (fun _ mem => by cases mem) writable.named (fun _ mem => by cases mem)
  unfold deserialize
  rw [copied, written]
  refine bind_eq_ok.mpr ⟨_, fieldOf_fields rfl, bind_eq_ok.mpr ⟨[], rfl, ?_⟩⟩
  refine bind_eq_ok.mpr ⟨_, fieldOf_fields rfl, bind_eq_ok.mpr ⟨_, rfl, ?_⟩⟩
  refine bind_eq_ok.mpr ⟨_, readVertices, ?_⟩
  refine bind_eq_ok.mpr ⟨_, fieldOf_fields rfl, bind_eq_ok.mpr ⟨_, rfl, ?_⟩⟩
  refine bind_eq_ok.mpr ⟨_, readEdges, ?_⟩
  unfold redrawn empty
  cases g.vertices <;> simp

theorem deserialize_serialize (drawn : g.Drawn) :
    ∃ f, Value.Rewrites f ∧ deserialize g.serialize = .ok (g.redrawn f) := by
  have writable : g.Writable := (drawn_iff.mp drawn).mono
    (fun id _ named => ⟨named.textKeys, named.notMem (unnamed_id id)⟩)
    (fun _ _ said => said.2.textKeys)
  exact writable.deserialize_serialize

end Graph

end Orchestration
