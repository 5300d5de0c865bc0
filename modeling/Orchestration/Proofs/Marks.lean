import Mathlib.Logic.Relation
import Orchestration.Context.Store

/-!
The marks of the mappings in contexts.

Merging contexts moves mappings about and makes no marks of its own: what holds of all marks in the
contexts still holds of them afterwards, and of the marks in the merged context. What is published
becomes a mapping of its own that is never inside a context. So nothing is added to it, though
something may be written into the mappings it holds.
-/

namespace Orchestration

namespace Node

variable {p : Nat → Prop}

mutual

def Every (p : Nat → Prop) : Node → Prop
  | .atom _ => True
  | .list items | .tuple items => EveryItem p items
  | .map mark entries => p mark ∧ EveryEntry p entries

def EveryItem (p : Nat → Prop) : List Node → Prop
  | [] => True
  | n :: rest => Every p n ∧ EveryItem p rest

def EveryEntry (p : Nat → Prop) : List (Value × Node) → Prop
  | [] => True
  | (_, n) :: rest => Every p n ∧ EveryEntry p rest

end

theorem everyItem_iff {items : List Node} : EveryItem p items ↔ ∀ n ∈ items, Every p n := by
  induction items with
  | nil => simp [EveryItem]
  | cons n rest ih => simp [EveryItem, ih]

theorem everyEntry_iff {entries : List (Value × Node)} :
    EveryEntry p entries ↔ ∀ k n, (k, n) ∈ entries → Every p n := by
  induction entries with
  | nil => simp [EveryEntry]
  | cons entry rest ih =>
    obtain ⟨key, n⟩ := entry
    rw [EveryEntry, ih]
    constructor
    · rintro ⟨first, others⟩ k m mem
      rcases List.mem_cons.mp mem with equality | inRest
      · cases equality
        exact first
      · exact others k m inRest
    · intro all
      exact ⟨all key n (List.mem_cons_self ..),
        fun k m inRest => all k m (List.mem_cons_of_mem _ inRest)⟩

mutual

theorem Every.mono {r : Nat → Prop} (weaker : ∀ m, p m → r m) : ∀ {n : Node}, Every p n → Every r n
  | .atom _, _ => trivial
  | .list _, every => EveryItem.mono weaker every
  | .tuple _, every => EveryItem.mono weaker every
  | .map _ _, every => ⟨weaker _ every.1, EveryEntry.mono weaker every.2⟩

theorem EveryItem.mono {r : Nat → Prop} (weaker : ∀ m, p m → r m) :
    ∀ {items : List Node}, EveryItem p items → EveryItem r items
  | [], _ => trivial
  | _ :: _, every => ⟨Every.mono weaker every.1, EveryItem.mono weaker every.2⟩

theorem EveryEntry.mono {r : Nat → Prop} (weaker : ∀ m, p m → r m) :
    ∀ {entries : List (Value × Node)}, EveryEntry p entries → EveryEntry r entries
  | [], _ => trivial
  | (_, _) :: _, every => ⟨Every.mono weaker every.1, EveryEntry.mono weaker every.2⟩

end

theorem EveryEntry.put {entries : List (Value × Node)} {n : Node} (key : Value)
    (every : EveryEntry p entries) (new : Every p n) : EveryEntry p (put entries key n) := by
  induction entries with
  | nil => exact ⟨new, trivial⟩
  | cons entry rest ih =>
    obtain ⟨k, m⟩ := entry
    rw [Node.put]
    split
    · exact ⟨new, every.2⟩
    · exact ⟨every.1, ih every.2⟩

theorem EveryEntry.find? {entries : List (Value × Node)} {key : Value} {n : Node}
    (every : EveryEntry p entries) (found : find? entries key = some n) : Every p n := by
  obtain ⟨⟨k, m⟩, first, rfl⟩ := Option.map_eq_some_iff.mp found
  exact everyEntry_iff.mp every k m (List.mem_of_find?_eq_some first)

mutual

theorem Every.write {new : Node} (mark : Nat) (key : Value) (every : Every p new) :
    ∀ {n : Node}, Every p n → Every p (write mark key new n)
  | .atom _, _ => trivial
  | .list _, held => EveryItem.write mark key every held
  | .tuple _, held => EveryItem.write mark key every held
  | .map m _, held => by
    have inside := EveryEntry.write mark key every held.2
    rw [Node.write]
    split
    · exact ⟨held.1, inside.put key every⟩
    · exact ⟨held.1, inside⟩

theorem EveryItem.write {new : Node} (mark : Nat) (key : Value) (every : Every p new) :
    ∀ {items : List Node}, EveryItem p items → EveryItem p (writeItems mark key new items)
  | [], _ => trivial
  | _ :: _, held => ⟨Every.write mark key every held.1, EveryItem.write mark key every held.2⟩

theorem EveryEntry.write {new : Node} (mark : Nat) (key : Value) (every : Every p new) :
    ∀ {entries : List (Value × Node)}, EveryEntry p entries →
      EveryEntry p (writeEntries mark key new entries)
  | [], _ => trivial
  | (_, _) :: _, held => ⟨Every.write mark key every held.1, EveryEntry.write mark key every held.2⟩

end

theorem mark?_write (mark : Nat) (key : Value) (new n : Node) :
    (write mark key new n).mark? = n.mark? := by
  cases n with
  | map m entries =>
    rw [Node.write]
    split <;> rfl
  | _ => rfl

mutual

theorem Every.entriesAt? {mark : Nat} {found : List (Value × Node)} :
    ∀ {n : Node}, Every p n → entriesAt? mark n = some found → EveryEntry p found
  | .atom _, _, missing => by simp [Node.entriesAt?] at missing
  | .list _, every, here => EveryItem.entriesAt? every (by rwa [Node.entriesAt?] at here)
  | .tuple _, every, here => EveryItem.entriesAt? every (by rwa [Node.entriesAt?] at here)
  | .map m entries, every, here => by
    rw [Node.entriesAt?] at here
    split at here
    · cases here
      exact every.2
    · exact EveryEntry.entriesAt? every.2 here

theorem EveryItem.entriesAt? {mark : Nat} {found : List (Value × Node)} :
    ∀ {items : List Node}, EveryItem p items → entriesInItems? mark items = some found →
      EveryEntry p found
  | [], _, missing => by simp [entriesInItems?] at missing
  | n :: rest, every, here => by
    rw [entriesInItems?] at here
    split at here
    case h_1 first => exact Every.entriesAt? every.1 (here ▸ first)
    case h_2 => exact EveryItem.entriesAt? every.2 here

theorem EveryEntry.entriesAt? {mark : Nat} {found : List (Value × Node)} :
    ∀ {entries : List (Value × Node)}, EveryEntry p entries →
      entriesInEntries? mark entries = some found → EveryEntry p found
  | [], _, missing => by simp [entriesInEntries?] at missing
  | (_, n) :: rest, every, here => by
    rw [entriesInEntries?] at here
    split at here
    case h_1 first => exact Every.entriesAt? every.1 (here ▸ first)
    case h_2 => exact EveryEntry.entriesAt? every.2 here

end

mutual

theorem every_lt_of_limit_le {bound : Nat} : ∀ {n : Node}, n.limit ≤ bound → Every (· < bound) n
  | .atom _, _ => trivial
  | .list _, below => everyItem_lt_of_limit_le below
  | .tuple _, below => everyItem_lt_of_limit_le below
  | .map _ _, below =>
    ⟨Nat.lt_of_succ_le (Nat.le_trans (Nat.le_max_left ..) below),
      everyEntry_lt_of_limit_le (Nat.le_trans (Nat.le_max_right ..) below)⟩

theorem everyItem_lt_of_limit_le {bound : Nat} :
    ∀ {items : List Node}, limitOfItems items ≤ bound → EveryItem (· < bound) items
  | [], _ => trivial
  | _ :: _, below =>
    ⟨every_lt_of_limit_le (Nat.le_trans (Nat.le_max_left ..) below),
      everyItem_lt_of_limit_le (Nat.le_trans (Nat.le_max_right ..) below)⟩

theorem everyEntry_lt_of_limit_le {bound : Nat} :
    ∀ {entries : List (Value × Node)}, limitOfEntries entries ≤ bound →
      EveryEntry (· < bound) entries
  | [], _ => trivial
  | (_, _) :: _, below =>
    ⟨every_lt_of_limit_le (Nat.le_trans (Nat.le_max_left ..) below),
      everyEntry_lt_of_limit_le (Nat.le_trans (Nat.le_max_right ..) below)⟩

end

mutual

theorem Every.shift {r : Nat → Prop} {up : Nat} (moved : ∀ m, p m → r (m + up)) :
    ∀ {n : Node}, Every p n → Every r (shift up n)
  | .atom _, _ => trivial
  | .list _, every => EveryItem.shift moved every
  | .tuple _, every => EveryItem.shift moved every
  | .map _ _, every => ⟨moved _ every.1, EveryEntry.shift moved every.2⟩

theorem EveryItem.shift {r : Nat → Prop} {up : Nat} (moved : ∀ m, p m → r (m + up)) :
    ∀ {items : List Node}, EveryItem p items → EveryItem r (shiftItems up items)
  | [], _ => trivial
  | _ :: _, every => ⟨Every.shift moved every.1, EveryItem.shift moved every.2⟩

theorem EveryEntry.shift {r : Nat → Prop} {up : Nat} (moved : ∀ m, p m → r (m + up)) :
    ∀ {entries : List (Value × Node)}, EveryEntry p entries → EveryEntry r (shiftEntries up entries)
  | [], _ => trivial
  | (_, _) :: _, every => ⟨Every.shift moved every.1, EveryEntry.shift moved every.2⟩

end

mutual

theorem Every.both {r : Nat → Prop} :
    ∀ {n : Node}, Every p n → Every r n → Every (fun m => p m ∧ r m) n
  | .atom _, _, _ => trivial
  | .list _, first, second => EveryItem.both first second
  | .tuple _, first, second => EveryItem.both first second
  | .map _ _, first, second => ⟨⟨first.1, second.1⟩, EveryEntry.both first.2 second.2⟩

theorem EveryItem.both {r : Nat → Prop} :
    ∀ {items : List Node}, EveryItem p items → EveryItem r items →
      EveryItem (fun m => p m ∧ r m) items
  | [], _, _ => trivial
  | _ :: _, first, second => ⟨Every.both first.1 second.1, EveryItem.both first.2 second.2⟩

theorem EveryEntry.both {r : Nat → Prop} :
    ∀ {entries : List (Value × Node)}, EveryEntry p entries → EveryEntry r entries →
      EveryEntry (fun m => p m ∧ r m) entries
  | [], _, _ => trivial
  | (_, _) :: _, first, second => ⟨Every.both first.1 second.1, EveryEntry.both first.2 second.2⟩

end

theorem every_true (n : Node) : Every (fun _ => True) n :=
  (every_lt_of_limit_le (Nat.le_refl n.limit)).mono fun _ _ => trivial

theorem everyEntry_true (entries : List (Value × Node)) : EveryEntry (fun _ => True) entries :=
  everyEntry_iff.mpr fun _ n _ => n.every_true

theorem Every.mark? {n : Node} {mark : Nat} (every : Every p n) (own : n.mark? = some mark) :
    p mark := by
  cases n with
  | map m entries =>
    cases own
    exact every.1
  | _ => cases own

/-- Whether something holds of all marks inside a node. It need not hold of the mark of the node
itself. -/
def Inside (p : Nat → Prop) : Node → Prop
  | .map _ entries => EveryEntry p entries
  | .list items | .tuple items => EveryItem p items
  | .atom _ => True

theorem Every.inside {n : Node} (every : Every p n) : Inside p n := by
  cases n with
  | map => exact every.2
  | _ => exact every

theorem Inside.mono {r : Nat → Prop} (weaker : ∀ m, p m → r m) {n : Node} (inside : Inside p n) :
    Inside r n := by
  cases n with
  | map => exact EveryEntry.mono weaker inside
  | list | tuple => exact EveryItem.mono weaker inside
  | atom => trivial

theorem Inside.both {r : Nat → Prop} {n : Node} (first : Inside p n) (second : Inside r n) :
    Inside (fun m => p m ∧ r m) n := by
  cases n with
  | map => exact EveryEntry.both first second
  | list | tuple => exact EveryItem.both first second
  | atom => trivial

theorem Inside.write {n new : Node} (mark : Nat) (key : Value) (inside : Inside p n)
    (given : Every p new) : Inside p (write mark key new n) := by
  cases n with
  | map m entries =>
    have written := EveryEntry.write mark key given inside
    rw [Node.write]
    split
    · exact written.put key given
    · exact written
  | list | tuple => exact EveryItem.write mark key given inside
  | atom => trivial

theorem Inside.entriesAt? {mark : Nat} {found : List (Value × Node)} {n : Node}
    (inside : Inside p n) (here : Node.entriesAt? mark n = some found) : EveryEntry p found := by
  cases n with
  | map m entries =>
    rw [Node.entriesAt?] at here
    split at here
    · cases here
      exact inside
    · exact EveryEntry.entriesAt? inside here
  | list items | tuple items => exact EveryItem.entriesAt? inside here
  | atom => cases here

theorem entriesInItems?_eq_some {mark : Nat} {items : List Node} {found : List (Value × Node)}
    (here : entriesInItems? mark items = some found) :
    ∃ n ∈ items, Node.entriesAt? mark n = some found := by
  induction items with
  | nil => cases here
  | cons n rest ih =>
    rw [entriesInItems?] at here
    split at here
    case h_1 first => exact ⟨n, List.mem_cons_self .., here ▸ first⟩
    case h_2 =>
      obtain ⟨m, inRest, there⟩ := ih here
      exact ⟨m, List.mem_cons_of_mem _ inRest, there⟩

end Node

namespace Blend

variable {p : Nat → Prop} {q : Value → Node → Prop} {b c : Blend}

/-! ### The steps of a merge -/

/-- Something is written into the mappings with a mark, wherever they are held, or something is put
into the context. -/
inductive Step (p : Nat → Prop) (q : Value → Node → Prop) : Blend → Blend → Prop where
  | write (b : Blend) {mark : Nat} (key : Value) {new : Node} :
      p mark → new.Every p → Step p q b (b.write mark key new)
  | put (b : Blend) {key : Value} {new : Node} :
      new.Every p → q key new → Step p q b { b with entries := Node.put b.entries key new }

abbrev Steps (p : Nat → Prop) (q : Value → Node → Prop) : Blend → Blend → Prop :=
  Relation.ReflTransGen (Step p q)

theorem Steps.keep (holds : Blend → Prop) (step : ∀ b c, Step p q b c → holds b → holds c)
    (steps : Steps p q b c) (start : holds b) : holds c := by
  induction steps with
  | refl => exact start
  | tail _ last ih => exact step _ _ last ih

structure Within (p : Nat → Prop) (b : Blend) : Prop where
  entries : Node.EveryEntry p b.entries
  held : ∀ n ∈ b.held, n.Inside p

theorem Step.within (step : Step p q b c) (within : b.Within p) : c.Within p := by
  cases step with
  | write key _ given =>
    refine ⟨within.entries.write _ key given, fun n among => ?_⟩
    obtain ⟨old, held, rfl⟩ := List.mem_map.mp among
    exact (within.held old held).write _ key given
  | put given => exact ⟨within.entries.put _ given, within.held⟩

theorem Steps.within (steps : Steps p q b c) (within : b.Within p) : c.Within p :=
  steps.keep (Within p) (fun _ _ step => step.within) within

theorem Within.entriesAt (within : b.Within p) (mark : Nat) :
    Node.EveryEntry p (b.entriesAt mark) := by
  unfold Blend.entriesAt
  cases inEntries : Node.entriesInEntries? mark b.entries with
  | some found => exact within.entries.entriesAt? inEntries
  | none =>
    cases inHeld : Node.entriesInItems? mark b.held with
    | some found =>
      obtain ⟨n, held, here⟩ := Node.entriesInItems?_eq_some inHeld
      exact (within.held n held).entriesAt? here
    | none => exact trivial

theorem within_true (b : Blend) : b.Within fun _ => True :=
  ⟨Node.everyEntry_true _, fun n _ => n.every_true.inside⟩

mutual

theorem steps_enrich :
    ∀ {mark : Nat} {right : Node} {b : Blend}, p mark → b.Within p → right.Every p →
    Steps p q b (b.enrich mark right)
  | _, .atom _, _, _, _, _ => .refl
  | _, .list _, _, _, _, _ => .refl
  | _, .tuple _, _, _, _, _ => .refl
  | _, .map _ _, _, marked, within, given => steps_enrichAll marked within given.2

theorem steps_enrichAll :
    ∀ {mark : Nat} {entries : List (Value × Node)} {b : Blend}, p mark → b.Within p →
    Node.EveryEntry p entries → Steps p q b (b.enrichAll mark entries)
  | _, [], _, _, _, _ => .refl
  | mark, (key, right) :: rest, b, marked, within, given => by
    have written : Steps p q b (b.write mark key right) := .single (.write b key marked given.1)
    have next (c : Blend) (first : Steps p q b c) : Steps p q b (c.enrichAll mark rest) :=
      first.trans (steps_enrichAll marked (first.within within) given.2)
    rw [Blend.enrichAll]
    refine next _ ?_
    split
    case h_1 m _ found =>
      have inner : p m := ((within.entriesAt mark).find? found).1
      split
      · exact written
      · split
        · exact .refl
        · exact steps_enrich inner within given.1
    case h_2 => exact written

end

theorem absorb_cons {key : Value} {right : Node} (rest : List (Value × Node)) (within : b.Within p)
    (given : right.Every p) (said : q key right) :
    ∃ c, Steps p q b c ∧ b.absorb ((key, right) :: rest) = c.absorb rest := by
  have put : Steps p q b { b with entries := Node.put b.entries key right } :=
    .single (.put b given said)
  rw [Blend.absorb]
  refine ⟨_, ?_, rfl⟩
  split
  case h_1 m _ found =>
    split
    · exact put
    · split
      · exact .refl
      · exact steps_enrich (within.entries.find? found).1 within given
  case h_2 => exact put

theorem steps_absorb {entries : List (Value × Node)} (within : b.Within p)
    (given : Node.EveryEntry p entries) (said : ∀ key n, (key, n) ∈ entries → q key n) :
    Steps p q b (b.absorb entries) := by
  induction entries generalizing b with
  | nil => exact .refl
  | cons entry rest ih =>
    obtain ⟨key, right⟩ := entry
    obtain ⟨c, first, same⟩ :=
      absorb_cons rest within given.1 (said key right (List.mem_cons_self ..))
    rw [same]
    exact first.trans (ih (first.within within) given.2 fun k n inRest =>
      said k n (List.mem_cons_of_mem _ inRest))

theorem steps_absorbNode {merged : Blend} {right : Node} (within : b.Within p)
    (given : right.Inside p) (said : ∀ mark entries, right = .map mark entries →
      ∀ key n, (key, n) ∈ entries → q key n)
    (found : b.absorbNode right = .ok merged) : Steps p q b merged := by
  unfold Blend.absorbNode at found
  split at found
  · cases found
    exact steps_absorb within given (said _ _ rfl)
  · cases found
    exact .refl
  · cases found

/-! ### What the steps keep -/

theorem Steps.marks_eq (steps : Steps p q b c) : c.held.map Node.mark? = b.held.map Node.mark? := by
  refine steps.keep (fun c => c.held.map Node.mark? = b.held.map Node.mark?)
    (fun c d step same => ?_) rfl
  cases step with
  | write key =>
    rw [← same]
    simp [Blend.write, Function.comp_def, Node.mark?_write]
  | put => exact same

theorem marks_absorb (entries : List (Value × Node)) (b : Blend) :
    (b.absorb entries).held.map Node.mark? = b.held.map Node.mark? :=
  (steps_absorb b.within_true (Node.everyEntry_true entries) fun _ _ _ => trivial).marks_eq

end Blend

namespace Contexts

variable {p : Nat → Prop}

theorem steps_gatherInto {own : Nat} {indices : List Nat} {b : Blend} (within : b.Within p) :
    Blend.Steps p (fun _ _ => True) b (gatherInto own b indices).1 := by
  induction indices generalizing b with
  | nil => exact .refl
  | cons index rest ih =>
    rw [gatherInto]
    split
    · split
      case h_1 context found =>
        have given := within.held context (List.mem_of_getElem? found)
        split
        case h_1 merged absorbed =>
          have first := Blend.steps_absorbNode within given (fun _ _ _ _ _ _ => trivial) absorbed
          exact first.trans (ih (first.within within))
        case h_2 => exact .refl
      case h_2 => exact .refl
    · exact .refl

theorem marks_gatherInto (own : Nat) (indices : List Nat) (b : Blend) :
    (gatherInto own b indices).1.held.map Node.mark? = b.held.map Node.mark? :=
  (steps_gatherInto b.within_true).marks_eq

theorem marks_gather (c : Contexts) (indices : List Nat) :
    (c.gather indices).1.items.map Node.mark? = c.items.map Node.mark? :=
  marks_gatherInto c.items.length indices ⟨[], c.items⟩

theorem length_gather (c : Contexts) (indices : List Nat) :
    (c.gather indices).1.items.length = c.items.length := by
  simpa using congrArg List.length (marks_gather c indices)

theorem inside_gather {c : Contexts} (indices : List Nat) (inside : ∀ n ∈ c.items, n.Inside p) :
    (∀ n ∈ (c.gather indices).1.items, n.Inside p) ∧
      ∀ merged, (c.gather indices).2 = .ok merged → Node.EveryEntry p merged := by
  have start : Blend.Within p ⟨[], c.items⟩ := ⟨trivial, inside⟩
  have within : Blend.Within p (gatherInto c.items.length ⟨[], c.items⟩ indices).1 :=
    (steps_gatherInto start).within start
  refine ⟨within.held, fun merged found => ?_⟩
  simp only [gather] at found
  cases done : (gatherInto c.items.length ⟨[], c.items⟩ indices).2 with
  | error e => simp [done, Except.map] at found
  | ok _ =>
    rw [done] at found
    cases found
    exact within.entries

/-- What is held while more contexts are merged into one that was gathered before. -/
def holding (c : Contexts) (entries : List (Value × Node)) : Blend :=
  ⟨[], c.items ++ [.map c.nextMark entries]⟩

theorem within_holding {c : Contexts} {entries : List (Value × Node)}
    (inside : ∀ n ∈ c.items, n.Inside p) (before : Node.EveryEntry p entries) :
    (c.holding entries).Within p := by
  refine ⟨trivial, fun n among => ?_⟩
  rcases List.mem_append.mp among with held | own
  · exact inside n held
  · rw [List.mem_singleton.mp own]
    exact before

theorem gatherMore_eq (c : Contexts) (entries : List (Value × Node)) (indices : List Nat) :
    c.gatherMore entries indices =
      let found := gatherInto c.items.length (c.holding entries) indices
      let contexts := found.1.held.take c.items.length
      let left :=
        ((found.1.held[c.items.length]?).bind fun n => Node.entriesAt? c.nextMark n).getD entries
      match found.2 with
      | .error e => (⟨contexts, c.nextMark + 1⟩, .error e)
      | .ok () =>
        let merged := (Blend.mk left contexts).absorb found.1.entries
        (⟨merged.held, c.nextMark + 1⟩, .ok merged.entries) := rfl

theorem marks_gatherMore (c : Contexts) (entries : List (Value × Node)) (indices : List Nat) :
    (c.gatherMore entries indices).1.items.map Node.mark? = c.items.map Node.mark? := by
  have held := marks_gatherInto c.items.length indices (c.holding entries)
  have kept :
      ((gatherInto c.items.length (c.holding entries) indices).1.held.take c.items.length).map
        Node.mark? = c.items.map Node.mark? := by
    rw [List.map_take, held]
    simp [holding]
  rw [gatherMore_eq]
  dsimp only
  split
  · exact kept
  · rw [Blend.marks_absorb]
    exact kept

theorem length_gatherMore (c : Contexts) (entries : List (Value × Node)) (indices : List Nat) :
    (c.gatherMore entries indices).1.items.length = c.items.length := by
  simpa using congrArg List.length (marks_gatherMore c entries indices)

theorem nextMark_gatherMore (c : Contexts) (entries : List (Value × Node)) (indices : List Nat) :
    (c.gatherMore entries indices).1.nextMark = c.nextMark + 1 := by
  rw [gatherMore_eq]
  dsimp only
  split <;> rfl

theorem inside_gatherMore {c : Contexts} {entries : List (Value × Node)} (indices : List Nat)
    (inside : ∀ n ∈ c.items, n.Inside p) (before : Node.EveryEntry p entries) :
    (∀ n ∈ (c.gatherMore entries indices).1.items, n.Inside p) ∧
      ∀ merged, (c.gatherMore entries indices).2 = .ok merged → Node.EveryEntry p merged := by
  have start := within_holding inside before
  have gathered : (gatherInto c.items.length (c.holding entries) indices).1.Within p :=
    (steps_gatherInto start).within start
  rw [gatherMore_eq]
  dsimp only
  generalize gatherInto c.items.length (c.holding entries) indices = found at gathered
  obtain ⟨b, done⟩ := found
  have contexts : ∀ n ∈ b.held.take c.items.length, n.Inside p := fun n among =>
    gathered.held n (List.mem_of_mem_take among)
  have left : Node.EveryEntry p
      (((b.held[c.items.length]?).bind fun n => Node.entriesAt? c.nextMark n).getD entries) := by
    cases here : (b.held[c.items.length]?).bind fun n => Node.entriesAt? c.nextMark n with
    | none => exact before
    | some found =>
      obtain ⟨n, place, inside⟩ := Option.bind_eq_some_iff.mp here
      exact (gathered.held n (List.mem_of_getElem? place)).entriesAt? inside
  cases done with
  | error e => exact ⟨contexts, fun _ impossible => by cases impossible⟩
  | ok _ =>
    have merged : Blend.Within p ((Blend.mk _ (b.held.take c.items.length)).absorb b.entries) :=
      (Blend.steps_absorb ⟨left, contexts⟩ gathered.entries fun _ _ _ => trivial).within
        ⟨left, contexts⟩
    refine ⟨merged.held, fun _ same => ?_⟩
    cases same
    exact merged.entries

/-! ### Marks that are taken -/

def Taken (next mark : Nat) : Prop := 0 < mark ∧ mark < next

theorem Taken.mono {next later mark : Nat} (taken : Taken next mark) (grown : next ≤ later) :
    Taken later mark :=
  ⟨taken.1, Nat.lt_of_lt_of_le taken.2 grown⟩

/-- A mark that has been given out, and not to a context that has been published. The first context
is that of the workflow. -/
def Inner (c : Contexts) (mark : Nat) : Prop :=
  Taken c.nextMark mark ∧ some mark ∉ (c.items.map Node.mark?).tail

theorem Inner.of_marks {c d : Contexts} {mark : Nat} (inner : c.Inner mark)
    (grown : c.nextMark ≤ d.nextMark) (same : d.items.map Node.mark? = c.items.map Node.mark?) :
    d.Inner mark :=
  ⟨inner.1.mono grown, same ▸ inner.2⟩

/-- All marks in the contexts have been given out before the next one, and those of contexts that
have been published are not inside any context. -/
structure Marked (c : Contexts) : Prop where
  positive : 0 < c.nextMark
  own : ∀ mark, some mark ∈ c.items.map Node.mark? → Taken c.nextMark mark
  inside : ∀ n ∈ c.items, n.Inside c.Inner

theorem Marked.of_marks {c d : Contexts} (marked : c.Marked) (grown : c.nextMark ≤ d.nextMark)
    (same : d.items.map Node.mark? = c.items.map Node.mark?)
    (inside : ∀ n ∈ d.items, n.Inside c.Inner) : d.Marked where
  positive := Nat.lt_of_lt_of_le marked.positive grown
  own := fun mark among => (marked.own mark (same ▸ among)).mono grown
  inside := fun n among => (inside n among).mono fun _ inner => inner.of_marks grown same

theorem Marked.gather {c : Contexts} (marked : c.Marked) (indices : List Nat) :
    (c.gather indices).1.Marked ∧ ∀ merged, (c.gather indices).2 = .ok merged →
      Node.EveryEntry (c.gather indices).1.Inner merged := by
  have same := marks_gather c indices
  have all := inside_gather indices marked.inside
  refine ⟨marked.of_marks (Nat.le_refl _) same all.1, fun merged found => ?_⟩
  exact (all.2 merged found).mono fun _ inner => inner.of_marks (Nat.le_refl _) same

theorem Marked.gatherMore {c : Contexts} {entries : List (Value × Node)} (marked : c.Marked)
    (indices : List Nat) (before : Node.EveryEntry c.Inner entries) :
    (c.gatherMore entries indices).1.Marked ∧
      ∀ merged, (c.gatherMore entries indices).2 = .ok merged →
        Node.EveryEntry (c.gatherMore entries indices).1.Inner merged := by
  have grown : c.nextMark ≤ (c.gatherMore entries indices).1.nextMark := by
    rw [nextMark_gatherMore]
    exact Nat.le_succ _
  have same := marks_gatherMore c entries indices
  have all := inside_gatherMore indices marked.inside before
  refine ⟨marked.of_marks grown same all.1, fun merged found => ?_⟩
  exact (all.2 merged found).mono fun _ inner => inner.of_marks grown same

theorem Marked.publish {c : Contexts} (marked : c.Marked) (entries : List (Value × Node)) :
    (c.publish entries).Marked := by
  have own : Taken (c.publish entries).nextMark c.nextMark := by
    refine ⟨marked.positive, ?_⟩
    simp only [Contexts.publish]
    omega
  have marks : (c.publish entries).items.map Node.mark? = c.items.map Node.mark? ++
      [some c.nextMark] := by
    simp [Contexts.publish, Node.mark?]
  -- What has been published before has marks below the next one.
  have inner (mark : Nat) (taken : Taken (c.publish entries).nextMark mark)
      (other : mark ≠ c.nextMark)
      (apart : some mark ∉ (c.items.map Node.mark?).tail) : (c.publish entries).Inner mark := by
    refine ⟨taken, fun among => ?_⟩
    rw [marks] at among
    cases held : c.items.map Node.mark? with
    | nil =>
      rw [held] at among
      cases among
    | cons first rest =>
      rw [held] at among apart
      rcases List.mem_append.mp among with before | new
      · exact apart before
      · exact other (Option.some.inj (List.mem_singleton.mp new))
  have new : Node.EveryEntry (c.publish entries).Inner
      (Node.shiftEntries (c.nextMark + 1) entries) := by
    refine Node.EveryEntry.shift ?_
      (Node.everyEntry_lt_of_limit_le (Nat.le_refl (Node.limitOfEntries entries)))
    intro m below
    refine inner _ ⟨by omega, by simp only [Contexts.publish]; omega⟩ (by omega) fun among => ?_
    have taken := marked.own _ (List.mem_of_mem_tail among)
    have := taken.2
    omega
  refine ⟨Nat.lt_of_lt_of_le own.1 (Nat.le_of_lt own.2), fun mark among => ?_, fun n among => ?_⟩
  · rw [marks] at among
    rcases List.mem_append.mp among with before | new
    · exact (marked.own mark before).mono (Nat.le_of_lt own.2)
    · cases List.mem_singleton.mp new
      exact own
  · rcases List.mem_append.mp among with before | last
    · refine (marked.inside n before).mono fun m old =>
        inner m (old.1.mono (Nat.le_of_lt own.2)) ?_ old.2
      exact Nat.ne_of_lt old.1.2
    · rw [List.mem_singleton.mp last]
      exact new

/-- The first context may hold any marks: nothing has been published. -/
theorem marked_push {context : Node} (given : context.Every (0 < ·)) :
    (empty.push context).Marked := by
  have taken : context.Every (Taken (empty.push context).nextMark) :=
    given.both (Node.every_lt_of_limit_le (Nat.le_max_right ..))
  refine ⟨Nat.lt_of_lt_of_le Nat.one_pos (Nat.le_max_left ..), fun mark among => ?_,
    fun n among => ?_⟩
  · exact taken.mark? (List.mem_singleton.mp among).symm
  · rw [List.mem_singleton.mp among]
    exact taken.inside.mono fun m taken => ⟨taken, List.not_mem_nil⟩

end Contexts

/-! ### Marks that are given out -/

namespace Node

mutual

theorem every_ofValue {p : Nat → Prop} (none : p 0) : ∀ v : Value, Every p (ofValue v)
  | .list items => everyItem_ofItems none items
  | .tuple items => everyItem_ofItems none items
  | .map entries => ⟨none, everyEntry_ofEntries none entries⟩
  | .null | .bool _ | .int _ | .float _ | .str _ | .date _ | .moment _ | .set _ | .named _
  | .object _ => trivial

theorem everyItem_ofItems {p : Nat → Prop} (none : p 0) :
    ∀ items : List Value, EveryItem p (ofItems items)
  | [] => trivial
  | v :: rest => ⟨every_ofValue none v, everyItem_ofItems none rest⟩

theorem everyEntry_ofEntries {p : Nat → Prop} (none : p 0) :
    ∀ entries : List (Value × Value), EveryEntry p (ofEntries entries)
  | [] => trivial
  | (_, v) :: rest => ⟨every_ofValue none v, everyEntry_ofEntries none rest⟩

end

mutual

theorem le_stamp : ∀ (next : Nat) (n : Node), next ≤ (stamp next n).2
  | _, .atom _ => Nat.le_refl _
  | next, .list items => le_stampItems next items
  | next, .tuple items => le_stampItems next items
  | next, .map mark entries => by
    have inside := le_stampEntries next entries
    rw [stamp]
    dsimp only
    split
    · exact Nat.le_succ_of_le inside
    · exact inside

theorem le_stampItems : ∀ (next : Nat) (items : List Node), next ≤ (stampItems next items).2
  | _, [] => Nat.le_refl _
  | next, n :: rest => Nat.le_trans (le_stamp next n) (le_stampItems _ rest)

theorem le_stampEntries :
    ∀ (next : Nat) (entries : List (Value × Node)), next ≤ (stampEntries next entries).2
  | _, [] => Nat.le_refl _
  | next, (_, n) :: rest => Nat.le_trans (le_stamp next n) (le_stampEntries _ rest)

end

mutual

/-- The marks that are given out are those from the next one on. -/
theorem Every.stamp {p : Nat → Prop} : ∀ {next : Nat} {n : Node},
    (∀ m, next ≤ m → m < (stamp next n).2 → p m) → Every (fun m => m = 0 ∨ p m) n →
    Every p (stamp next n).1
  | _, .atom _, _, _ => trivial
  | _, .list _, given, before => EveryItem.stamp given before
  | _, .tuple _, given, before => EveryItem.stamp given before
  | next, .map mark entries, given, before => by
    rw [Node.stamp] at given ⊢
    dsimp only at given ⊢
    split
    case isTrue none =>
      rw [if_pos none] at given
      refine ⟨given _ (le_stampEntries next entries) (Nat.lt_succ_self _),
        EveryEntry.stamp ?_ before.2⟩
      exact fun m lower upper => given m lower (Nat.lt_succ_of_lt upper)
    case isFalse some =>
      rw [if_neg some] at given
      exact ⟨before.1.resolve_left (by simpa using some), EveryEntry.stamp given before.2⟩

theorem EveryItem.stamp {p : Nat → Prop} : ∀ {next : Nat} {items : List Node},
    (∀ m, next ≤ m → m < (stampItems next items).2 → p m) → EveryItem (fun m => m = 0 ∨ p m) items →
      EveryItem p (stampItems next items).1
  | _, [], _, _ => trivial
  | next, n :: rest, given, before => by
    refine ⟨Every.stamp ?_ before.1, EveryItem.stamp ?_ before.2⟩
    · exact fun m lower upper => given m lower (Nat.lt_of_lt_of_le upper (le_stampItems _ rest))
    · exact fun m lower upper => given m (Nat.le_trans (le_stamp next n) lower) upper

theorem EveryEntry.stamp {p : Nat → Prop} : ∀ {next : Nat} {entries : List (Value × Node)},
    (∀ m, next ≤ m → m < (stampEntries next entries).2 → p m) →
    EveryEntry (fun m => m = 0 ∨ p m) entries → EveryEntry p (stampEntries next entries).1
  | _, [], _, _ => trivial
  | next, (_, n) :: rest, given, before => by
    refine ⟨Every.stamp ?_ before.1, EveryEntry.stamp ?_ before.2⟩
    · exact fun m lower upper => given m lower (Nat.lt_of_lt_of_le upper (le_stampEntries _ rest))
    · exact fun m lower upper => given m (Nat.le_trans (le_stamp next n) lower) upper

end

theorem positive_stamp {next : Nat} (positive : 0 < next) (n : Node) :
    Every (0 < ·) (stamp next n).1 :=
  Every.stamp (fun _ lower _ => Nat.lt_of_lt_of_le positive lower)
    ((every_lt_of_limit_le (Nat.le_refl n.limit)).mono fun m _ => Nat.eq_zero_or_pos m)

/-- A mapping that is given a mark does not hold the mark that it is given. -/
theorem apart_stamp {n : Node} (unmarked : Every (· = 0) n) (next : Nat) :
    Inside (fun m => some m ≠ (stamp next n).1.mark?) (stamp next n).1 := by
  cases n with
  | map mark entries =>
    obtain ⟨rfl, inside⟩ := unmarked
    have below : EveryEntry (· < (stampEntries next entries).2) (stampEntries next entries).1 :=
      EveryEntry.stamp (fun _ _ upper => upper) (inside.mono fun _ => .inl)
    exact below.mono fun m below same => Nat.ne_of_lt below (Option.some.inj same)
  | list items | tuple items =>
    exact (every_true (.list (stampItems next items).1)).mono fun m _ => Option.some_ne_none m
  | atom => trivial

theorem apart_stampItems {items : List Node} (unmarked : EveryItem (· = 0) items) (next : Nat) :
    ∀ n ∈ (stampItems next items).1,
      Inside (fun m => some m ∉ (stampItems next items).1.map Node.mark?) n := by
  induction items generalizing next with
  | nil => exact fun _ none => nomatch none
  | cons first rest ih =>
    have before : Every (· < (stamp next first).2) (stamp next first).1 :=
      Every.stamp (fun _ _ upper => upper) (unmarked.1.mono fun _ => .inl)
    have later : EveryItem ((stamp next first).2 ≤ ·) (stampItems (stamp next first).2 rest).1 :=
      EveryItem.stamp (fun _ lower _ => lower) (unmarked.2.mono fun _ => .inl)
    intro n among
    rcases List.mem_cons.mp among with rfl | inRest
    · refine ((apart_stamp unmarked.1 next).both before.inside).mono fun m ⟨other, below⟩ held => ?_
      rcases List.mem_cons.mp held with own | inRest
      · exact other own
      · obtain ⟨n, inRest, own⟩ := List.mem_map.mp inRest
        exact Nat.not_le_of_lt below ((everyItem_iff.mp later n inRest).mark? own)
    · have above := (everyItem_iff.mp later n inRest).inside
      refine ((ih unmarked.2 _ n inRest).both above).mono fun m ⟨other, above⟩ held => ?_
      rcases List.mem_cons.mp held with own | inRest
      · exact Nat.not_le_of_lt (before.mark? own.symm) above
      · exact other inRest

theorem length_ofItems (values : List Value) : (ofItems values).length = values.length := by
  induction values with
  | nil => rfl
  | cons v rest ih => rw [ofItems, List.length_cons, List.length_cons, ih]

theorem length_toValues (items : List Node) : (toValues items).length = items.length := by
  induction items with
  | nil => rfl
  | cons n rest ih => rw [toValues, List.length_cons, List.length_cons, ih]

theorem length_stampItems (next : Nat) (items : List Node) :
    (stampItems next items).1.length = items.length := by
  induction items generalizing next with
  | nil => rfl
  | cons n rest ih =>
    rw [stampItems, List.length_cons, List.length_cons, ih]

end Node

namespace Contexts

theorem marked_ofValues (values : List Value) : (ofValues values).Marked := by
  have taken : Node.EveryItem (Taken (ofValues values).nextMark) (ofValues values).items :=
    Node.EveryItem.stamp (fun _ lower upper => ⟨lower, upper⟩)
      (Node.everyItem_ofItems (.inl rfl) values)
  refine ⟨Nat.lt_of_lt_of_le Nat.one_pos (Node.le_stampItems 1 _), fun mark among => ?_,
    fun n among => ?_⟩
  · obtain ⟨n, held, own⟩ := List.mem_map.mp among
    exact (Node.everyItem_iff.mp taken n held).mark? own
  · have apart := Node.apart_stampItems (Node.everyItem_ofItems (p := (· = 0)) rfl values) 1 n among
    refine ((Node.everyItem_iff.mp taken n among).inside.both apart).mono fun m inner =>
      ⟨inner.1, fun held => ?_⟩
    exact inner.2 (List.mem_of_mem_tail held)

theorem length_ofValues (values : List Value) : (ofValues values).items.length = values.length := by
  rw [ofValues, Node.length_stampItems, Node.length_ofItems]

end Contexts

end Orchestration
