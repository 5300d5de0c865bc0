import Mathlib.Data.List.Nodup
import Orchestration.Value.Copy

/-!
What writing and reading a value leaves as it is.

A value is tidy if no tuple is in it, and if its mappings have text for their keys, each of them
once. A tidy value is its own copy, and a copy of a plain value is tidy.
-/

namespace Orchestration

theorem Value.str_beq (a b : String) : (Value.str a == Value.str b) = (a == b) := by
  change Value.same (.str a) (.str b) = _
  rw [Value.same]

theorem Value.eq_str_of_beq {v : Value} {text : String} (same : (v == .str text) = true) :
    v = .str text := by
  change Value.same v (.str text) = true at same
  cases v with
  | str other =>
    rw [Value.same] at same
    rw [eq_of_beq same]
  | bool | int | float => simp [Value.same, Value.sameNumber, Value.numeric?] at same
  | _ => simp [Value.same] at same

theorem mem_of_getStr? {entries : Entries} {name : String} {v : Value}
    (found : Entries.getStr? entries name = some v) : (.str name, v) ∈ entries := by
  obtain ⟨entry, isEntry, rfl⟩ := Option.map_eq_some_iff.mp found
  have same : entry.1 = .str name := Value.eq_str_of_beq (List.find?_some isEntry :)
  exact same ▸ List.mem_of_find?_eq_some isEntry

namespace Entries

def TextKeys (entries : Entries) : Prop :=
  ∃ names : List String, names.Nodup ∧ Entries.keys entries = names.map .str

/-- A new entry goes behind all entries that have other names. -/
theorem insert_append {entries : Entries} {key : String} {names : List String}
    (more : Entries) (v : Value) (keys : Entries.keys entries = names.map .str)
    (new : key ∉ names) :
    insert (entries ++ more) (.str key) v = entries ++ insert more (.str key) v := by
  induction entries generalizing names with
  | nil => rfl
  | cons entry rest ih =>
    obtain ⟨k, w⟩ := entry
    cases names with
    | nil => cases keys
    | cons name names =>
      simp only [Entries.keys, List.map_cons, List.cons.injEq] at keys
      obtain ⟨rfl, others⟩ := keys
      have different : (name == key) = false :=
        beq_false_of_ne fun same => new (same ▸ List.mem_cons_self ..)
      rw [List.cons_append, insert, Value.str_beq, different]
      simp only [Bool.false_eq_true, if_false, List.cons_append, List.cons.injEq, true_and]
      exact ih others fun inNames => new (List.mem_cons_of_mem _ inNames)

theorem insert_of_notMem {entries : Entries} {key : String} {names : List String} (v : Value)
    (keys : Entries.keys entries = names.map .str) (new : key ∉ names) :
    insert entries (.str key) v = entries ++ [(.str key, v)] := by
  simpa [insert] using insert_append [] v keys new

theorem ofList_append {entries more : Entries} {names : List String} (distinct : names.Nodup)
    (keys : Entries.keys (entries ++ more) = names.map .str) :
    more.foldl (fun es (k, v) => insert es k v) entries = entries ++ more := by
  induction more generalizing entries with
  | nil => simp
  | cons entry rest ih =>
    obtain ⟨k, v⟩ := entry
    have reordered : entries ++ (k, v) :: rest = (entries ++ [(k, v)]) ++ rest := by simp
    obtain ⟨before, after, rfl, first, second⟩ := List.map_eq_append_iff.mp
      ((by simpa [Entries.keys] using keys.symm) :
        names.map Value.str = Entries.keys entries ++ Entries.keys ((k, v) :: rest))
    cases after with
    | nil => cases second
    | cons name names =>
      simp only [Entries.keys, List.map_cons, List.cons.injEq] at second
      obtain ⟨rfl, -⟩ := second
      have new : name ∉ before := fun inBefore =>
        (List.nodup_append.mp distinct).2.2 name inBefore name (List.mem_cons_self ..) rfl
      rw [reordered] at keys ⊢
      rw [List.foldl_cons]
      dsimp only
      rw [insert_of_notMem v first.symm new]
      exact ih keys

theorem ofList_of_textKeys {entries : Entries} (keys : TextKeys entries) :
    ofList entries = entries := by
  obtain ⟨names, distinct, same⟩ := keys
  have read := ofList_append distinct (show Entries.keys ([] ++ entries) = names.map .str from same)
  exact read

end Entries

namespace Value

mutual

def Tidy : Value → Prop
  | .list items => TidyItems items
  | .tuple _ => False
  | .map entries => (Entries.keys entries).Nodup ∧ TidyEntries entries
  | _ => True

def TidyItems : List Value → Prop
  | [] => True
  | v :: rest => Tidy v ∧ TidyItems rest

def TidyEntries : List (Value × Value) → Prop
  | [] => True
  | (k, v) :: rest => (∃ name, k = .str name) ∧ Tidy v ∧ TidyEntries rest

end

theorem tidyItems_iff {items : List Value} : TidyItems items ↔ ∀ v ∈ items, Tidy v := by
  induction items with
  | nil => simp [TidyItems]
  | cons v rest ih => simp [TidyItems, ih]

theorem keys_of_tidyEntries {entries : Entries} (tidy : TidyEntries entries) :
    ∃ names : List String, Entries.keys entries = names.map .str := by
  induction entries with
  | nil => exact ⟨[], rfl⟩
  | cons entry rest ih =>
    obtain ⟨k, v⟩ := entry
    obtain ⟨⟨name, rfl⟩, -, others⟩ := tidy
    obtain ⟨names, same⟩ := ih others
    refine ⟨name :: names, ?_⟩
    rw [Entries.keys, List.map_cons, ← Entries.keys, same, List.map_cons]

theorem textKeys_of_tidy {entries : Entries} (tidy : Tidy (.map entries)) :
    Entries.TextKeys entries := by
  obtain ⟨names, same⟩ := keys_of_tidyEntries tidy.2
  exact ⟨names, List.Nodup.of_map _ (same ▸ tidy.1), same⟩

mutual

theorem replain_of_tidy : ∀ {v : Value}, Tidy v → replain v = v
  | .list _, tidy => congrArg Value.list (replainItems_of_tidy tidy)
  | .map entries, tidy => by
    rw [replain, replainEntries_of_tidy tidy.2, Entries.ofList_of_textKeys (textKeys_of_tidy tidy)]
  | .null, _ | .bool _, _ | .int _, _ | .float _, _ | .str _, _ | .date _, _
  | .moment _, _ | .set _, _
  | .named _, _ | .object _, _ => by simp [replain]

theorem replainItems_of_tidy : ∀ {items : List Value}, TidyItems items → replainItems items = items
  | [], _ => rfl
  | v :: rest, tidy => by
    rw [replainItems, replain_of_tidy tidy.1, replainItems_of_tidy tidy.2]

theorem replainEntries_of_tidy : ∀ {entries : List (Value × Value)}, TidyEntries entries →
    replainEntries entries = entries
  | [], _ => rfl
  | (k, v) :: rest, tidy => by
    obtain ⟨⟨name, rfl⟩, first, others⟩ := tidy
    rw [replainEntries, plainKey, replain_of_tidy first, replainEntries_of_tidy others]

end

theorem replainItems_eq_map (items : List Value) : replainItems items = items.map replain := by
  induction items with
  | nil => rfl
  | cons v rest ih => rw [replainItems, List.map_cons, ih]

theorem tidyEntries_insert {entries : Entries} {name : String} {v : Value}
    (tidy : TidyEntries entries) (new : Tidy v) :
    TidyEntries (Entries.insert entries (.str name) v) := by
  induction entries with
  | nil => exact ⟨⟨name, rfl⟩, new, trivial⟩
  | cons entry rest ih =>
    obtain ⟨k, w⟩ := entry
    rw [Entries.insert]
    split
    · exact ⟨tidy.1, new, tidy.2.2⟩
    · exact ⟨tidy.1, tidy.2.1, ih tidy.2.2⟩

theorem mem_keys_insert {entries : Entries} {key other : Value} {v : Value}
    (mem : other ∈ Entries.keys (Entries.insert entries key v)) :
    other = key ∨ other ∈ Entries.keys entries := by
  induction entries with
  | nil => exact .inl (List.mem_singleton.mp mem)
  | cons entry rest ih =>
    obtain ⟨k, w⟩ := entry
    rw [Entries.insert] at mem
    split at mem
    · exact .inr mem
    · rcases List.mem_cons.mp mem with equality | inRest
      · exact .inr (equality ▸ List.mem_cons_self ..)
      · rcases ih inRest with equality | inRest
        · exact .inl equality
        · exact .inr (List.mem_cons_of_mem _ inRest)

theorem nodup_keys_insert {entries : Entries} {name : String} {v : Value}
    (text : TidyEntries entries) (distinct : (Entries.keys entries).Nodup) :
    (Entries.keys (Entries.insert entries (.str name) v)).Nodup := by
  induction entries with
  | nil => exact List.nodup_singleton _
  | cons entry rest ih =>
    obtain ⟨k, w⟩ := entry
    obtain ⟨⟨first, rfl⟩, -, others⟩ := text
    have ⟨fresh, still⟩ := List.nodup_cons.mp distinct
    rw [Entries.insert, Value.str_beq]
    split
    · exact distinct
    case isFalse different =>
      refine List.nodup_cons.mpr ⟨fun mem => ?_, ih others still⟩
      rcases mem_keys_insert mem with equality | inRest
      · cases equality
        exact different (beq_self_eq_true _)
      · exact fresh inRest

theorem tidy_insert {entries : Entries} {name : String} {v : Value} (tidy : Tidy (.map entries))
    (new : Tidy v) : Tidy (.map (Entries.insert entries (.str name) v)) :=
  ⟨nodup_keys_insert tidy.2 tidy.1, tidyEntries_insert tidy.2 new⟩

theorem tidy_ofList {pairs : List (Value × Value)} (tidy : TidyEntries pairs) :
    Tidy (.map (Entries.ofList pairs)) := by
  suffices general : ∀ entries : Entries, Tidy (.map entries) →
      Tidy (.map (pairs.foldl (fun es (k, v) => Entries.insert es k v) entries)) from
    general [] ⟨List.nodup_nil, trivial⟩
  induction pairs with
  | nil => exact fun _ before => before
  | cons pair rest ih =>
    obtain ⟨k, v⟩ := pair
    obtain ⟨⟨name, rfl⟩, first, others⟩ := tidy
    exact fun entries before => ih others _ (tidy_insert before first)

theorem plainKey_eq_str (k : Value) : ∃ name, plainKey k = .str name := by
  cases k <;> exact ⟨_, rfl⟩

mutual

theorem tidy_replain : ∀ v : Value, Tidy (replain v)
  | .list items => by
    rw [replain]
    exact tidyItems_replain items
  | .tuple items => by
    rw [replain]
    exact tidyItems_replain items
  | .map entries => by
    rw [replain]
    exact tidy_ofList (tidyEntries_replain entries)
  | .null | .bool _ | .int _ | .float _ | .str _ | .date _ | .moment _ | .set _ | .named _
  | .object _ => by
    simp [replain, Tidy]

theorem tidyItems_replain : ∀ items : List Value, TidyItems (replainItems items)
  | [] => trivial
  | v :: rest => ⟨tidy_replain v, tidyItems_replain rest⟩

theorem tidyEntries_replain : ∀ entries : List (Value × Value), TidyEntries (replainEntries entries)
  | [] => trivial
  | (k, v) :: rest => ⟨plainKey_eq_str k, tidy_replain v, tidyEntries_replain rest⟩

end

/-- A copy that can be written as plain data is tidy. -/
theorem tidy_copy_of_isPlain {v : Value} (plain : v.copy.isPlain = true) : Tidy v.copy := by
  unfold copy at plain ⊢
  split
  · exact tidy_replain v
  case isFalse odd =>
    rw [if_neg odd] at plain
    exact absurd plain odd

theorem isPlain_map {entries : Entries} :
    (Value.map entries).isPlain = true ↔ ∀ k v, (k, v) ∈ entries → v.isPlain = true := by
  rw [isPlain]
  induction entries with
  | nil => simp [entriesPlain]
  | cons entry rest ih =>
    obtain ⟨key, value⟩ := entry
    rw [entriesPlain, Bool.and_eq_true, ih]
    constructor
    · rintro ⟨first, others⟩ k v mem
      rcases List.mem_cons.mp mem with equality | inRest
      · cases equality
        exact first
      · exact others k v inRest
    · intro all
      exact ⟨all key value (List.mem_cons_self ..),
        fun k v inRest => all k v (List.mem_cons_of_mem _ inRest)⟩

theorem tidyEntries_iff {entries : Entries} :
    TidyEntries entries ↔ ∀ k v, (k, v) ∈ entries → (∃ name, k = .str name) ∧ Tidy v := by
  induction entries with
  | nil => simp [TidyEntries]
  | cons entry rest ih =>
    obtain ⟨key, value⟩ := entry
    rw [TidyEntries, ih]
    constructor
    · rintro ⟨text, first, others⟩ k v mem
      rcases List.mem_cons.mp mem with equality | inRest
      · cases equality
        exact ⟨text, first⟩
      · exact others k v inRest
    · intro all
      have here := all key value (List.mem_cons_self ..)
      exact ⟨here.1, here.2, fun k v inRest => all k v (List.mem_cons_of_mem _ inRest)⟩

theorem tidy_fields {named : List (String × Value)} (distinct : (named.map (·.1)).Nodup)
    (tidy : ∀ v ∈ named.map (·.2), Tidy v) : Tidy (.fields named) := by
  refine ⟨?_, tidyEntries_iff.mpr ?_⟩
  · have keys : Entries.keys (named.map fun field => (Value.str field.1, field.2)) =
        (named.map (·.1)).map .str := by
      simp [Entries.keys, Function.comp_def]
    change (Entries.keys (named.map fun field => (Value.str field.1, field.2))).Nodup
    rw [keys]
    exact distinct.map fun _ _ same => by cases same; rfl
  · intro k v mem
    obtain ⟨⟨name, w⟩, inNamed, same⟩ := List.mem_map.mp mem
    cases same
    exact ⟨⟨name, rfl⟩, tidy v (List.mem_map.mpr ⟨_, inNamed, rfl⟩)⟩

/-- Fields that are tidy or cannot be written are copied as they are. -/
theorem copy_fields {named : List (String × Value)} (distinct : (named.map (·.1)).Nodup)
    (settled : ∀ v ∈ named.map (·.2), v.isPlain = true → Tidy v) :
    (Value.fields named).copy = .fields named := by
  unfold copy
  split
  case isFalse => rfl
  case isTrue plain =>
    refine replain_of_tidy (tidy_fields distinct fun v mem => settled v mem ?_)
    obtain ⟨link, inNamed, rfl⟩ := List.mem_map.mp mem
    exact isPlain_map.mp plain (.str link.1) link.2 (List.mem_map.mpr ⟨link, inNamed, rfl⟩)

end Value

end Orchestration
