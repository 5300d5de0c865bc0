import Orchestration.Proofs.Redrawing
import Orchestration.Value.Merge

/-!
The laws of merging.

A merge is found name by name: what only one of two mappings holds is kept, mappings under one name
are merged in turn, and of any other two values `overwrite` chooses one. So to keep the left side is
to overwrite with the sides exchanged, a mapping absorbs its copies, and mappings without a common
name are merged into a third one in either order. Values are trees, so that no mapping stands in two
places and nothing else is written to.
-/

namespace Orchestration

namespace Entries

variable {overwrite : Bool} {entries left right : Entries} {key v : Value}

theorem hasStr_eq (entries : Entries) (name : String) :
    hasStr entries name = (getStr? entries name).isSome := by
  rw [hasStr, has, getStr?, get?, Option.isSome_map, Bool.eq_iff_iff, List.any_eq_true,
    List.find?_isSome]

theorem getStr?_cons (key name : String) (v : Value) (rest : Entries) :
    getStr? ((.str key, v) :: rest) name = if key = name then some v else getStr? rest name := by
  by_cases same : key = name <;> simp [getStr?, get?, Value.str_beq, same]

theorem TextKeys.uncons (keys : TextKeys ((key, v) :: entries)) :
    ∃ name, key = .str name ∧ getStr? entries name = none ∧ TextKeys entries := by
  obtain ⟨names, distinct, same⟩ := keys
  cases names with
  | nil => cases same
  | cons name names =>
    obtain ⟨rfl, others⟩ := List.cons.inj same
    obtain ⟨new, distinct⟩ := List.nodup_cons.mp distinct
    refine ⟨name, rfl, Option.eq_none_iff_forall_ne_some.mpr fun w found => new ?_, names,
      distinct, others⟩
    have isKey : Value.str name ∈ names.map .str :=
      others ▸ List.mem_map_of_mem (mem_of_getStr? found)
    simpa using isKey

theorem merge_cons (overwrite : Bool) (left : Entries) (key v : Value) (rest : Entries) :
    merge overwrite left ((key, v) :: rest) =
      merge overwrite
      (insert left key ((get? left key).elim v (Value.mergeInto overwrite · v))) rest := by
  rw [merge]
  cases get? left key <;> rfl

theorem TextKeys.merge (first : TextKeys left) (second : TextKeys right) :
    TextKeys (merge overwrite left right) := by
  induction right generalizing left with
  | nil =>
    rw [Entries.merge]
    exact first
  | cons entry rest ih =>
    obtain ⟨key, v⟩ := entry
    obtain ⟨name, rfl, -, others⟩ := second.uncons
    rw [merge_cons]
    exact ih (first.insert name _) others

theorem getStr?_merge (keys : TextKeys right) (name : String) :
    getStr? (merge overwrite left right) name =
    (getStr? left name).merge (Value.mergeInto overwrite) (getStr? right name) := by
  induction right generalizing left with
  | nil =>
    rw [merge]
    cases getStr? left name <;> rfl
  | cons entry rest ih =>
    obtain ⟨key, v⟩ := entry
    obtain ⟨first, rfl, new, others⟩ := keys.uncons
    rw [merge_cons, ih others, getStr?_cons]
    change Option.merge _ (getStr? (insertStr left first _) name) _ = _
    by_cases same : first = name
    · subst same
      -- No later entry has this name, so what has been written stays.
      rw [getStr?_insertStr_self, if_pos rfl, new, getStr?]
      cases get? left (.str first) <;> rfl
    · rw [getStr?_insertStr_of_ne (Ne.symm same), if_neg same]

theorem hasStr_merge (keys : TextKeys right) (name : String) :
    hasStr (merge overwrite left right) name = (hasStr left name || hasStr right name) := by
  simp only [hasStr_eq, getStr?_merge keys, Option.isSome_merge]

end Entries

namespace Value

open Entries (TextKeys getStr? hasStr getStr?_merge hasStr_merge)

variable {v w : Value} {l r base : Entries}

theorem mergeInto_map (overwrite : Bool) (l r : Entries) :
    mergeInto overwrite (.map l) (.map r) = .map (Entries.merge overwrite l r) := by
  rw [mergeInto]

theorem mergeInto_of_not_maps (overwrite : Bool) (apart : (v.isMap && w.isMap) = false) :
    mergeInto overwrite v w = if overwrite then w else v := by
  cases w with
  | map =>
    cases v with
    | map => cases apart
    | _ => simp [mergeInto]
  | _ => simp [mergeInto]

theorem merge_maps (overwrite : Bool) (l r : Entries) :
    merge overwrite (.map l) (.map r) = .ok (.map (Entries.merge overwrite l r)) := rfl

/-! ### Mappings with text for keys -/

/-- A value in which the mappings under mappings have text for their keys, each of them once. -/
inductive Keyed : Value → Prop
  | leaf {v : Value} : v.isMap = false → Keyed v
  | map {l : Entries} : TextKeys l → (∀ name v, getStr? l name = some v → Keyed v) → Keyed (.map l)

theorem Keyed.textKeys (keyed : Keyed (.map l)) : TextKeys l := by
  cases keyed with
  | leaf notMap => cases notMap
  | map keys => exact keys

theorem Keyed.of_getStr? {name : String} (keyed : Keyed (.map l))
    (found : getStr? l name = some v) : Keyed v := by
  cases keyed with
  | leaf notMap => cases notMap
  | map _ inner => exact inner name v found

theorem keyed_fields {named : List (String × Value)} (distinct : (named.map (·.1)).Nodup)
    (each : ∀ field ∈ named, Keyed field.2) : Keyed (.fields named) := by
  refine .map ⟨named.map (·.1), distinct, ?_⟩ fun name v found => ?_
  · simp [Entries.keys, Function.comp_def]
  · obtain ⟨field, isField, same⟩ := List.mem_map.mp (mem_of_getStr? found)
    cases same
    exact each field isField

/-- Two values are looked at together, as deep as both of them are mappings. -/
theorem Keyed.pair_induction {motive : Value → Value → Prop} (first : Keyed v) (second : Keyed w)
    (apart : ∀ {v w}, Keyed v → Keyed w → (v.isMap && w.isMap) = false → motive v w)
    (both : ∀ {l r}, Keyed (.map l) → Keyed (.map r) →
      (∀ name v w, getStr? l name = some v → getStr? r name = some w → motive v w) →
      motive (.map l) (.map r)) : motive v w := by
  induction first generalizing w with
  | leaf notMap => exact apart (.leaf notMap) second (by simp [notMap])
  | map keys inner ih =>
    cases second with
    | leaf notMap => exact apart (.map keys inner) (.leaf notMap) (by simp [notMap])
    | map others within =>
      exact both (.map keys inner) (.map others within) fun name v w found there =>
        ih name v found (within name w there)

theorem Keyed.mergeInto (overwrite : Bool) (first : Keyed v) (second : Keyed w) :
    Keyed (Value.mergeInto overwrite v w) := by
  apply pair_induction (motive := fun v w => Keyed (Value.mergeInto overwrite v w)) first second
  · intro v w first second apart
    rw [mergeInto_of_not_maps overwrite apart]
    split <;> assumption
  · intro l r left right ih
    rw [mergeInto_map]
    refine .map (left.textKeys.merge right.textKeys) fun name u found => ?_
    rw [getStr?_merge right.textKeys, Option.merge_eq_some_iff] at found
    rcases found with ⟨here, -⟩ | ⟨-, there⟩ | ⟨v, w, here, there, rfl⟩
    · exact left.of_getStr? here
    · exact right.of_getStr? there
    · exact ih name v w here there

/-! ### Mappings in any order -/

/-- Values whose mappings hold the same under each name, in whatever order; where there are no
mappings, the values are `equal`. -/
inductive Alike (equal : Value → Value → Prop) : Value → Value → Prop
  | leaf {v w : Value} : v.isMap = false → w.isMap = false → equal v w → Alike equal v w
  | map {l r : Entries} : TextKeys l → TextKeys r → (∀ name, hasStr l name = hasStr r name) →
      (∀ name v w, getStr? l name = some v → getStr? r name = some w → Alike equal v w) →
      Alike equal (.map l) (.map r)

def Agree (equal : Value → Value → Prop) (a b : Except Error Value) : Prop :=
  ∃ v w, a = .ok v ∧ b = .ok w ∧ Alike equal v w

variable {equal : Value → Value → Prop}

theorem Keyed.alike (reflexive : ∀ v, equal v v) (keyed : Keyed v) : Alike equal v v := by
  induction keyed with
  | leaf notMap => exact .leaf notMap notMap (reflexive _)
  | map keys _ ih =>
    refine .map keys keys (fun _ => rfl) fun name v w found there => ?_
    rw [found] at there
    cases there
    exact ih name v found

theorem Keyed.alike_of_getStr? (left : Keyed (.map l)) (right : Keyed (.map r))
    (same : ∀ name, getStr? l name = getStr? r name) : Alike Eq (.map l) (.map r) := by
  apply Alike.map left.textKeys right.textKeys
  · intro name
    rw [Entries.hasStr_eq, Entries.hasStr_eq, same]
  · intro name v w here there
    rw [same, there] at here
    cases here
    exact (right.of_getStr? there).alike fun _ => rfl

/-- To keep the left side is to overwrite with the sides exchanged. -/
theorem Keyed.alike_swap (first : Keyed v) (second : Keyed w) :
    Alike Eq (Value.mergeInto false v w) (Value.mergeInto true w v) := by
  apply pair_induction (motive :=
    fun v w => Alike Eq (Value.mergeInto false v w) (Value.mergeInto true w v)) first second
  · intro v w first _ apart
    rw [mergeInto_of_not_maps false apart, mergeInto_of_not_maps true (Bool.and_comm .. ▸ apart)]
    exact first.alike fun _ => rfl
  · intro l r left right ih
    rw [mergeInto_map, mergeInto_map]
    apply Alike.map (left.textKeys.merge right.textKeys) (right.textKeys.merge left.textKeys)
    · intro name
      rw [hasStr_merge right.textKeys, hasStr_merge left.textKeys, Bool.or_comm]
    · intro name a b kept taken
      rw [getStr?_merge right.textKeys, Option.merge_eq_some_iff] at kept
      rw [getStr?_merge left.textKeys] at taken
      -- What only one side holds is the same in both merges, and what both hold is merged in turn.
      rcases kept with ⟨here, there⟩ | ⟨here, there⟩ | ⟨v, w, here, there, rfl⟩ <;>
        rw [here, there] at taken <;> cases taken
      · exact (left.of_getStr? here).alike fun _ => rfl
      · exact (right.of_getStr? there).alike fun _ => rfl
      · exact ih name v w here there

theorem Alike.mergeInto (overwrite : Bool) (reflexive : ∀ v, equal v v) (alike : Alike equal v w) :
    Alike equal v (Value.mergeInto overwrite v w) := by
  induction alike with
  | leaf first second same =>
    rw [mergeInto_of_not_maps overwrite (by simp [first])]
    split
    · exact .leaf first second same
    · exact .leaf first first (reflexive _)
  | map keys others names _ ih =>
    rw [mergeInto_map]
    apply Alike.map keys (keys.merge others)
    · intro name
      rw [hasStr_merge others, ← names, Bool.or_self]
    · intro name v u here there
      have both := names name
      rw [Entries.hasStr_eq, Entries.hasStr_eq, here] at both
      obtain ⟨w, isRight⟩ := Option.isSome_iff_exists.mp both.symm
      rw [getStr?_merge others, here, isRight] at there
      cases there
      exact ih name v w here isRight

/-- Mappings without a common name are merged into a third one in either order. -/
theorem getStr?_merge_merge (overwrite : Bool) (left : TextKeys l) (right : TextKeys r)
    (disjoint : ∀ name, hasStr l name = true → hasStr r name = false) (name : String) :
    getStr? (Entries.merge overwrite (Entries.merge overwrite base l) r) name =
      getStr? (Entries.merge overwrite (Entries.merge overwrite base r) l) name := by
  have apart := disjoint name
  rw [Entries.hasStr_eq, Entries.hasStr_eq] at apart
  rw [getStr?_merge right, getStr?_merge left, getStr?_merge left, getStr?_merge right]
  cases here : getStr? l name with
  | none => rw [Option.merge_none_right, Option.merge_none_right]
  | some v =>
    have none : getStr? r name = none := by simpa [here] using apart
    rw [none, Option.merge_none_right, Option.merge_none_right]

/-! ### The laws -/

structure Merges (overwrite : Bool) (l r merged : Entries) : Prop where
  keyed : Keyed (.map merged)
  names : ∀ name, hasStr merged name = (hasStr l name || hasStr r name)
  left : ∀ name v, getStr? l name = some v → getStr? r name = none → getStr? merged name = some v
  right : ∀ name w, getStr? l name = none → getStr? r name = some w → getStr? merged name = some w
  maps : ∀ name v w, getStr? l name = some (.map v) → getStr? r name = some (.map w) →
    ∃ inner, merge overwrite (.map v) (.map w) = .ok inner ∧ getStr? merged name = some inner
  others : ∀ name v w, getStr? l name = some v → getStr? r name = some w →
    (v.isMap && w.isMap) = false → getStr? merged name = some (if overwrite then w else v)

theorem Keyed.merge (overwrite : Bool) (left : Keyed (.map l)) (right : Keyed (.map r)) :
    Keyed (.map (Entries.merge overwrite l r)) :=
  mergeInto_map overwrite l r ▸ left.mergeInto overwrite right

theorem Keyed.merges (overwrite : Bool) (left : Keyed (.map l)) (right : Keyed (.map r)) :
    Merges overwrite l r (Entries.merge overwrite l r) := by
  constructor
  case keyed => exact left.merge overwrite right
  case names => exact hasStr_merge right.textKeys
  case left =>
    intro name v here none
    rw [getStr?_merge right.textKeys, here, none, Option.merge_none_right]
  case right =>
    intro name w none there
    rw [getStr?_merge right.textKeys, none, there, Option.merge_none_left]
  case maps =>
    intro name v w here there
    refine ⟨_, merge_maps overwrite v w, ?_⟩
    rw [getStr?_merge right.textKeys, here, there, Option.merge_some_some, mergeInto_map]
  case others =>
    intro name v w here there apart
    rw [getStr?_merge right.textKeys, here, there, Option.merge_some_some,
      mergeInto_of_not_maps overwrite apart]

/-- Mappings with text for keys can be merged, and come together name by name. To keep the left one
is to overwrite with the sides exchanged; a mapping stays as it is when a copy of it is merged into
it, whatever counts as equal among values that are not mappings; and the order does not matter in
which two mappings without a common name are merged into a third one. -/
theorem merge_laws (left : Keyed (.map l)) (right : Keyed (.map r)) (overwrite : Bool) :
    (∃ merged, merge overwrite (.map l) (.map r) = .ok (.map merged) ∧
      Merges overwrite l r merged) ∧
    Agree Eq (merge false (.map l) (.map r)) (merge true (.map r) (.map l)) ∧
    (∀ equal : Value → Value → Prop, (∀ v, equal v v) → ∀ copy, Alike equal (.map l) copy →
      Agree equal (.ok (.map l)) (merge overwrite (.map l) copy)) ∧
    ∀ base, Keyed (.map base) → (∀ name, hasStr l name = true → hasStr r name = false) →
      Agree Eq (merge overwrite (.map base) (.map l) >>= (merge overwrite · (.map r)))
        (merge overwrite (.map base) (.map r) >>= (merge overwrite · (.map l))) := by
  refine ⟨⟨_, merge_maps overwrite l r, left.merges overwrite right⟩, ?_, ?_, ?_⟩
  · refine ⟨_, _, merge_maps false l r, merge_maps true r l, ?_⟩
    rw [← mergeInto_map, ← mergeInto_map]
    exact left.alike_swap right
  · intro equal reflexive copy alike
    have absorbed := alike.mergeInto overwrite reflexive
    cases alike with
    | leaf notMap => cases notMap
    | map =>
        rw [mergeInto_map] at absorbed
        exact ⟨_, _, rfl, rfl, absorbed⟩
  · intro base keyed disjoint
    refine ⟨_, _, rfl, rfl, ?_⟩
    apply ((keyed.merge overwrite left).merge overwrite right).alike_of_getStr?
    · exact (keyed.merge overwrite right).merge overwrite left
    · exact getStr?_merge_merge overwrite left.textKeys right.textKeys disjoint

def depot : Value :=
  .fields [("shelf", .fields [("nuts", .int 1), ("box", .fields [])]), ("cart", .int 2)]

def delivery : Value :=
  .fields [("cart", .fields [("wheels", .null)]), ("shelf", .fields [("box", .int 3)])]

theorem keyed_depot : Keyed depot := by
  refine keyed_fields (by decide) ?_
  simp only [List.forall_mem_cons]
  refine ⟨keyed_fields (by decide) ?_, .leaf rfl, List.forall_mem_nil _⟩
  simp only [List.forall_mem_cons]
  exact ⟨.leaf rfl, keyed_fields (by decide) (List.forall_mem_nil _), List.forall_mem_nil _⟩

theorem keyed_delivery : Keyed delivery := by
  refine keyed_fields (by decide) ?_
  simp only [List.forall_mem_cons]
  exact ⟨keyed_fields (by decide) (by simpa using .leaf rfl),
    keyed_fields (by decide) (by simpa using .leaf rfl), List.forall_mem_nil _⟩

theorem merge_laws_depot : Keyed depot ∧ Keyed delivery ∧
    Agree Eq (merge false depot delivery) (merge true delivery depot) ∧
    Agree Eq (.ok depot) (merge true depot depot) ∧
    Agree Eq (merge true delivery depot >>= (merge true · (.fields [("load", delivery)])))
      (merge true delivery (.fields [("load", delivery)]) >>= (merge true · depot)) := by
  have load : Keyed (.fields [("load", delivery)]) :=
    keyed_fields (by decide) (by simpa using keyed_delivery)
  have laws := merge_laws keyed_depot keyed_delivery true
  refine ⟨keyed_depot, keyed_delivery, laws.2.1,
    laws.2.2.1 Eq (fun _ => rfl) _ (keyed_depot.alike fun _ => rfl),
    (merge_laws keyed_depot load true).2.2.2 _ keyed_delivery fun name there => ?_⟩
  have other : name ≠ "load" := by
    rintro rfl
    simp [hasStr, Entries.has, str_beq] at there
  simp [hasStr, Entries.has, str_beq, other.symm]

end Value

end Orchestration
