import Orchestration.Proofs.Portrayal
import Orchestration.Spec.Semantics

/-!
What the transitions of a mapping of tasks list.

A mapping of tasks is made from a definition, and each of its transitions lists targets, in one line
or one by one. The targets that are reported as undefined are those which a task that can be reached
lists, and which are neither tasks nor commands. A task whose name is no word is not made, so that
nothing can be told of a mapping with such a name.
-/

namespace Orchestration

/-! ### What is made -/

/-- Whether a property of a kind is read from what is written, if it is neither spelled out nor a
part. -/
def Kind.reads (kind : Kind) (name : String) : Bool :=
  !(["spec", "member", "name"].contains name) && !kind.methods.contains name &&
    !(kind.header.field "properties").hasField name &&
    !(kind.header.field "properties").hasField (Text.replace name "_" "-") &&
    (kind.written.field "properties").hasField name

namespace Spec

variable {fuel : Nat} {kind : Kind} {given v : Value} {name : Value} {member : Value}
  {s tasks task transition : Spec} {entries : Entries}

/-- What is read from a mapping is there, or is what the schema has for it. -/
theorem property_of_reads {name : String} (reads : s.kind.reads name = true)
    (noPart : s.part? name = none) (notGiven : s.given.find? (·.1 == name) = none)
    (isMap : s.raw.isMap = true) :
    s.property name = .ok (.value ((s.raw.field? name).getD (defaultOf s.kind.written name))) := by
  simp only [Kind.reads, Bool.and_eq_true, Bool.not_eq_true'] at reads
  obtain ⟨⟨⟨⟨plain, noMethod⟩, notHeader⟩, notHyphened⟩, isWritten⟩ := reads
  have written : s.writtenProperty name =
      .ok ((s.raw.field? name).getD (defaultOf s.kind.written name)) := by
    cases raw : s.raw with
    | map entries =>
      unfold writtenProperty schemaProperty? rawField?
      simp [notHeader, notHyphened, isWritten, raw, bind, Except.bind, Value.field?]
    | _ =>
      rw [raw] at isMap
      cases isMap
  unfold property
  rw [noPart, notGiven]
  dsimp only
  split
  case h_4 =>
    rw [if_neg (by simpa using noMethod), written]
    rfl
  all_goals exact absurd plain (by decide)

theorem exists_value {name : String} (reads : s.kind.reads name = true)
    (noPart : s.part? name = none) (isMap : s.raw.isMap = true) :
    ∃ v, s.property name = .ok (.value v) := by
  cases spelled : s.given.find? (·.1 == name) with
  | none => exact ⟨_, property_of_reads reads noPart spelled isMap⟩
  | some entry =>
    refine ⟨entry.2, ?_⟩
    unfold property
    rw [noPart, spelled]

theorem property_of_part? {name : String} {part : Spec} (found : s.part? name = some part) :
    s.property name = .ok (.spec part) := by
  unfold property
  rw [found]

theorem buildWithin_eq_ok (made : buildWithin fuel kind given name member = .ok s) :
    ∃ less schema properties patterns, partSchema kind member = .ok schema ∧
      propertyParts (fun kind v => buildWithin less kind v .null (.bool true)) s.raw
      (kindsIn schema "properties") = .ok properties ∧
      patternParts (fun kind v => buildWithin less kind v .null (.bool true)) s.raw
      (kindsIn schema "patternProperties") = .ok patterns ∧
      (kind.shape = .sequence →
        sequenceItems (fun kind v => buildWithin less kind v .null (.bool true)) schema
        s.raw = .ok s.items) ∧
      givenBy kind s.raw = .ok s.given ∧ s.kind = kind ∧ s.parts = properties ++ patterns := by
  cases fuel with
  | zero => cases made
  | succ less =>
    obtain ⟨prepared, -, made⟩ := bind_eq_ok.mp made
    obtain ⟨raw, -, made⟩ := bind_eq_ok.mp made
    obtain ⟨schema, isSchema, made⟩ := bind_eq_ok.mp made
    obtain ⟨properties, areProperties, made⟩ := bind_eq_ok.mp made
    obtain ⟨patterns, arePatterns, made⟩ := bind_eq_ok.mp made
    refine ⟨less, schema, properties, patterns, isSchema, ?_⟩
    dsimp only at made
    split at made
    all_goals
      rename_i shape
      obtain ⟨items, areItems, made⟩ := bind_eq_ok.mp made
      obtain ⟨more, isGiven, made⟩ := bind_eq_ok.mp made
      cases Except.ok.inj made
    · exact ⟨areProperties, arePatterns, fun _ => areItems, isGiven, rfl, rfl⟩
    · exact ⟨areProperties, arePatterns, fun sequence => absurd (beq_iff_eq.mpr sequence) shape,
        isGiven, rfl, rfl⟩

section Parts

variable {build : Build} {raw : Value} {parts : List (String × Spec)}

theorem propertyParts_eq_ok {first : String × Kind} {kinds : List (String × Kind)}
    (made : propertyParts build raw (first :: kinds) = .ok parts) :
    raw.isMap = true ∧ ∀ part ∈ parts, ∃ kind v, (part.1, kind) ∈ first :: kinds ∧
      build kind v = .ok part.2 := by
  obtain ⟨found, mapped, made⟩ := bind_eq_ok.mp made
  cases Except.ok.inj made
  cases raw with
  | map entries =>
    refine ⟨rfl, fun part mem => ?_⟩
    obtain ⟨those, inFound, inThose⟩ := List.mem_flatten.mp mem
    obtain ⟨⟨name, kind⟩, isKind, made⟩ := exists_of_mem_mapM mapped those inFound
    dsimp only at made
    split at made
    case h_1 v _ =>
      split at made
      case isTrue =>
        obtain ⟨built, isBuilt, made⟩ := bind_eq_ok.mp made
        cases Except.ok.inj made
        cases List.mem_singleton.mp inThose
        exact ⟨kind, v, isKind, isBuilt⟩
      case isFalse =>
        cases Except.ok.inj made
        cases inThose
    case h_2 =>
      cases Except.ok.inj made
      cases inThose
  | _ =>
    obtain ⟨_, -, made⟩ := mem_of_mapM mapped first (List.mem_cons_self ..)
    cases made

/-- The parts that are found by a pattern are made from a mapping whose keys are texts, one for each
entry that says something under a name that matches. -/
theorem patternParts_eq_ok {pattern : String}
    (made : patternParts build raw [(pattern, kind)] = .ok parts) :
    (∀ part ∈ parts, ∃ v, build kind v = .ok part.2) ∧ ∃ entries, raw = .map entries ∧
      ∀ entry ∈ entries, ∃ name, entry.1 = .str name ∧
        ((Schema.patternOf pattern).matchesStart name = true → entry.2.truthy = true →
        ∃ part ∈ parts, part.1 = name) := by
  obtain ⟨found, mapped, made⟩ := bind_eq_ok.mp made
  cases Except.ok.inj made
  obtain ⟨those, inFound, made⟩ := mem_of_mapM mapped _ (List.mem_singleton_self _)
  cases raw with
  | map entries =>
    obtain ⟨lists, mapped', made⟩ := bind_eq_ok.mp made
    cases Except.ok.inj made
    refine ⟨fun part mem => ?_, entries, rfl, fun entry isEntry => ?_⟩
    · obtain ⟨_, inFound, inThose⟩ := List.mem_flatten.mp mem
      obtain ⟨_, isKind, made⟩ := exists_of_mem_mapM mapped _ inFound
      cases List.mem_singleton.mp isKind
      obtain ⟨_, again, made⟩ := bind_eq_ok.mp made
      cases Except.ok.inj (mapped'.symm.trans again)
      cases Except.ok.inj made
      obtain ⟨list, inLists, inList⟩ := List.mem_flatten.mp inThose
      obtain ⟨entry, -, made⟩ := exists_of_mem_mapM mapped' list inLists
      obtain ⟨name, -, made⟩ := bind_eq_ok.mp made
      split at made
      case isTrue =>
        obtain ⟨built, isBuilt, made⟩ := bind_eq_ok.mp made
        cases Except.ok.inj made
        cases List.mem_singleton.mp inList
        exact ⟨entry.2, isBuilt⟩
      case isFalse =>
        cases Except.ok.inj made
        cases inList
    · obtain ⟨list, inLists, made⟩ := mem_of_mapM mapped' _ isEntry
      obtain ⟨name, isName, made⟩ := bind_eq_ok.mp made
      refine ⟨name, ?_, fun isWord filled => ?_⟩
      · cases key : entry.1 <;> rw [key] at isName <;> cases isName
        rfl
      · rw [isWord, filled, Bool.and_true, if_pos rfl] at made
        obtain ⟨built, -, made⟩ := bind_eq_ok.mp made
        cases Except.ok.inj made
        exact ⟨(name, built), List.mem_flatten.mpr
          ⟨_, inFound, List.mem_flatten.mpr ⟨_, inLists, List.mem_singleton_self _⟩⟩, rfl⟩
  | _ => cases made

end Parts

/-! ### Tasks and their transitions -/

def IsPart (kind : Kind) (s : Spec) : Prop :=
  ∃ fuel v, buildWithin fuel kind v .null (.bool true) = .ok s

theorem mem_of_part? {name : String} {part : Spec} (found : s.part? name = some part) :
    (name, part) ∈ s.parts := by
  obtain ⟨⟨other, _⟩, there, rfl⟩ := Option.map_eq_some_iff.mp found
  have same : other = name := by simpa using List.find?_some there
  exact same ▸ List.mem_of_find?_eq_some there

theorem IsPart.bare (isPart : IsPart kind s) (bare : kindsIn kind.written "properties" = [] ∧
      kindsIn kind.written "patternProperties" = []) : s.kind = kind ∧ s.parts = [] ∧
      givenBy kind s.raw = .ok s.given := by
  obtain ⟨fuel, v, made⟩ := isPart
  obtain ⟨less, schema, properties, patterns, isSchema, areProperties, arePatterns, -, isGiven,
    isKind, parts⟩ := buildWithin_eq_ok made
  cases Except.ok.inj isSchema
  rw [bare.1] at areProperties
  rw [bare.2] at arePatterns
  obtain rfl : [] = properties := Except.ok.inj areProperties
  obtain rfl : [] = patterns := Except.ok.inj arePatterns
  exact ⟨isKind, parts, isGiven⟩

theorem IsPart.ofTask (isTask : IsPart .task task) : task.kind = .task ∧ task.raw.isMap = true ∧
    ∀ part ∈ task.parts, ∃ kind, (part.1, kind) ∈ [("with", Kind.repetition), ("retry", .retry),
      ("next", .transitions)] ∧ IsPart kind part.2 := by
  obtain ⟨fuel, v, made⟩ := isTask
  obtain ⟨less, schema, properties, patterns, isSchema, areProperties, arePatterns, -, -,
    isKind, parts⟩ := buildWithin_eq_ok made
  cases Except.ok.inj isSchema
  have kinds : kindsIn (Kind.written .task) "properties" =
      [("with", .repetition), ("retry", .retry), ("next", .transitions)] := by decide +kernel
  have none : kindsIn (Kind.written .task) "patternProperties" = [] := by decide +kernel
  rw [kinds] at areProperties
  rw [none] at arePatterns
  obtain rfl : [] = patterns := Except.ok.inj arePatterns
  obtain ⟨isMap, made⟩ := propertyParts_eq_ok areProperties
  refine ⟨isKind, isMap, fun part mem => ?_⟩
  rw [parts, List.append_nil] at mem
  obtain ⟨kind, v, isKind, made⟩ := made part mem
  exact ⟨kind, isKind, less, v, made⟩

theorem isPart_of_sequenceItems {raw : Value} {items : List Spec} (made : sequenceItems
    (fun kind v => buildWithin fuel kind v .null (.bool true)) (Kind.written .transitions)
    raw = .ok items) : ∀ item ∈ items, IsPart .transition item := by
  have isArray : ((Kind.written .transitions).field "type" == .str "array") = true := by
    decide +kernel
  have holds : (Kind.written .transitions).field "items" = Kind.part .transition :=
    Value.field_fields ..
  have known : Kind.ofTitle? (Kind.title .transition) = some .transition := by decide
  unfold sequenceItems at made
  rw [isArray, holds] at made
  simp only [Kind.part, known] at made
  cases raw with
  | list values =>
    intro item mem
    obtain ⟨v, -, built⟩ := exists_of_mem_mapM made item mem
    exact ⟨fuel, v, built⟩
  | _ => cases made

def next (task : Spec) : List Spec := (task.part? "next").elim [] (·.items)

theorem IsPart.transitions (isTask : IsPart .task task) :
    task.transitions = .ok task.next ∧ ∀ transition ∈ task.next, IsPart .transition transition := by
  obtain ⟨isKind, isMap, parts⟩ := isTask.ofTask
  unfold Spec.transitions Spec.next
  cases found : task.part? "next" with
  | none =>
    have reads : task.kind.reads "next" = true := isKind ▸ (by decide +kernel)
    obtain ⟨v, read⟩ := exists_value reads found isMap
    rw [read]
    exact ⟨rfl, List.forall_mem_nil _⟩
  | some next =>
    rw [property_of_part? found]
    refine ⟨rfl, fun transition mem => ?_⟩
    obtain ⟨kind, isNext, fuel, v, made⟩ := parts _ (mem_of_part? found)
    obtain rfl : kind = .transitions := by simpa using isNext
    obtain ⟨less, schema, -, -, isSchema, -, -, areItems, -⟩ := buildWithin_eq_ok made
    cases Except.ok.inj isSchema
    exact isPart_of_sequenceItems (areItems rfl) transition mem

/-- Whether a transition names what it goes on to as its schema has it: in one line, in a list, or
not at all. -/
def namesTargets (transition : Spec) : Bool :=
  transition.raw.isMap && match transition.raw.field "do" with
    | .str _ => true
    | .list items => items.all (·.isStr)
    | other => !other.truthy

def targetNames (transition : Spec) : List String :=
  match transition.raw.field "do" with
  | .str text => if text.isEmpty then [] else (Text.splitText "," text).map Text.trim
  | .list items => items.filterMap Value.asStr?
  | _ => []

theorem Written.branch_texts (condition : Value) (names : List String) :
    (Written.mk condition (names.map .str)).branch = ⟨condition, names⟩ := by
  simp [branch, List.filterMap_map, Function.comp_def, Value.asStr?]

theorem Written.odd_texts (condition : Value) (names : List String) :
    (Written.mk condition (names.map .str)).odd = [] := by
  simp [odd, Value.asStr?]

theorem oddOf_eq_nil {branches : List Written} (plain : ∀ written ∈ branches, written.odd = []) :
    oddOf branches = [] := by
  refine List.flatMap_eq_nil_iff.mpr ?_
  rintro ⟨written, i⟩ isOne
  exact List.map_eq_nil_iff.mpr (plain written (List.fst_mem_of_mem_zipIdx isOne))

theorem map_filterMap_texts {items : List Value} (texts : items.all (·.isStr) = true) :
    (items.filterMap Value.asStr?).map .str = items := by
  induction items with
  | nil => rfl
  | cons v rest ih =>
    obtain ⟨isText, others⟩ := Bool.and_eq_true_iff.mp texts
    cases v with
    | str text => exact congrArg (.str text :: ·) (ih others)
    | _ => cases isText

/-- A transition spells out what it publishes, and that it continues if it does not say what to
do. -/
theorem find?_transitionGiven (raw : Value) {name : String} (other : name ≠ "publish") :
    (transitionGiven raw).find? (·.1 == name) =
      if name = "do" ∧ (raw.field "do").truthy = false then some
        ("do", .str "continue") else none := by
  have unpublished {published : List (String × Value)}
      (all : ∀ one ∈ published, one.1 = "publish") : published.find? (·.1 == name) = none :=
    List.find?_eq_none.mpr fun one mem same => other (beq_iff_eq.mp same ▸ all one mem)
  unfold transitionGiven
  dsimp only
  rw [List.find?_append, unpublished, Option.none_or]
  · cases (raw.field "do").truthy with
    | true => simp
    | false =>
      by_cases same : name = "do"
      · simp [same]
      · simp [same, Ne.symm same]
  · repeat' split
    all_goals simp

/-- What a transition is asked for is there, but it continues if it does not say what to do. -/
theorem IsPart.property_transition (isTransition : IsPart .transition transition)
    (isMap : transition.raw.isMap = true) {name : String}
    (reads : Kind.reads .transition name = true) (other : name ≠ "publish") :
    transition.property name =
      .ok (.value (if name = "do" ∧ (transition.raw.field "do").truthy = false then .str "continue"
      else (transition.raw.field? name).getD (defaultOf (Kind.written .transition) name))) := by
  obtain ⟨isKind, noParts, isGiven⟩ := isTransition.bare (by decide +kernel)
  have noPart : transition.part? name = none := by
    unfold part?
    rw [noParts]
    rfl
  have spelled := find?_transitionGiven transition.raw other
  rw [show transitionGiven transition.raw = transition.given from Except.ok.inj isGiven] at spelled
  split
  case isTrue silent =>
    rw [if_pos silent] at spelled
    unfold property
    rw [noPart, spelled]
  case isFalse filled =>
    rw [if_neg filled] at spelled
    exact isKind ▸ property_of_reads (isKind ▸ reads) noPart spelled isMap

/-- The targets of a transition are what it lists, and a command if it lists nothing. -/
theorem IsPart.exists_read (isTransition : IsPart .transition transition)
    (named : transition.namesTargets = true) :
    ∃ written, read transition = .ok written ∧ written.odd = [] ∧
      transition.targets = .ok (written.branch.targets.map .str) ∧
      ∀ target, Command.isName target = false →
        (target ∈ written.branch.targets ↔ target ∈ transition.targetNames) := by
  obtain ⟨isMap, named⟩ := Bool.and_eq_true_iff.mp named
  obtain ⟨v, condition⟩ : ∃ v, transition.condition = .ok v := by
    unfold condition value
    rw [isTransition.property_transition isMap (by decide +kernel) (by decide)]
    exact ⟨_, rfl⟩
  have said : transition.value "do" =
      .ok (if (transition.raw.field "do").truthy then transition.raw.field "do"
        else .str "continue") := by
    unfold value
    rw [isTransition.property_transition isMap (by decide +kernel) (by decide), Value.field]
    cases transition.raw.field? "do" with
    | none => rfl
    | some w => cases filled : w.truthy <;> simp [filled, bind, Except.bind, Property.raw]
  suffices aims : ∃ names : List String, transition.targets = .ok (names.map .str) ∧
      ∀ target, Command.isName target = false →
        (target ∈ names ↔ target ∈ transition.targetNames) by
    obtain ⟨names, areTargets, aims⟩ := aims
    refine ⟨⟨v, names.map .str⟩, bind_eq_ok.mpr ⟨v, condition, bind_eq_ok.mpr ⟨_, areTargets, rfl⟩⟩,
      Written.odd_texts v names, ?_⟩
    rw [Written.branch_texts]
    exact ⟨areTargets, aims⟩
  -- One line is taken apart, also the one that continues if nothing is said.
  have line {text : String} (isLine : transition.value "do" = .ok (.str text)) :
      transition.targets = .ok (((Text.splitText "," text).map Text.trim).map .str) := by
    unfold targets
    rw [isLine]
    exact congrArg Except.ok (List.map_map (f := Text.trim) (g := Value.str)).symm
  by_cases filled : (transition.raw.field "do").truthy = true
  case neg =>
    rw [if_neg filled] at said
    have continues : (Text.splitText "," "continue").map Text.trim = ["continue"] := by
      decide +kernel
    have nothing : transition.targetNames = [] := by
      unfold targetNames
      split
      case h_1 text isText => exact if_pos (by simpa [isText, Value.truthy] using filled)
      case h_2 items isList =>
        have empty : items = [] := by simpa [isList, Value.truthy] using filled
        rw [empty, List.filterMap_nil]
      case h_3 => rfl
    refine ⟨_, line said, fun target free => ?_⟩
    rw [continues, nothing, List.mem_singleton]
    refine ⟨?_, fun listed => absurd listed List.not_mem_nil⟩
    rintro rfl
    cases free
  case pos =>
    rw [if_pos filled] at said
    unfold targetNames
    cases written : transition.raw.field "do" with
    | str text =>
      rw [written] at said filled
      refine ⟨_, line said, fun target _ => ?_⟩
      dsimp only
      rw [if_neg (by simpa [Value.truthy] using filled)]
    | list items =>
      rw [written] at said named
      refine ⟨items.filterMap Value.asStr?, ?_, fun _ _ => Iff.rfl⟩
      rw [map_filterMap_texts named]
      unfold targets
      rw [said]
      rfl
    | _ =>
      rw [written] at named filled
      exact absurd filled (by simpa using named)

/-! ### Mappings of tasks -/

/-- Whether a task has a name as it should be, a word that is not the name of a command, and says
something. -/
def namesTask (tasks : Spec) (name : String) : Bool :=
  Schema.wordPattern.matchesStart name && !Command.isName name && (tasks.raw.field name).truthy

/-- A mapping of tasks that has been made, in which tasks and targets are named as they should
be. -/
structure NamesTasks (tasks : Spec) : Prop where
  made : ∃ fuel given name member, buildWithin fuel .tasks given name member = .ok tasks
  names : ∀ name, tasks.raw.hasField name = true → tasks.namesTask name = true
  targets : ∀ part ∈ tasks.parts, ∀ transition ∈ part.2.next, transition.namesTargets = true

theorem NamesTasks.unreserved (named : tasks.NamesTasks) {name : String}
    (there : tasks.raw.hasField name = true) : Command.isName name = false := by
  have names := named.names name there
  simp only [namesTask, Bool.and_eq_true, Bool.not_eq_true'] at names
  exact names.1.2

def Lists (tasks : Spec) (name : String) (i : Nat) (target : String) : Prop :=
  tasks.raw.hasField name = true ∧ ∃ task transition, tasks.part? name = some task ∧
    task.next[i]? = some transition ∧ target ∈ transition.targetNames

/-- What can be reached in a mapping of tasks, from tasks that nothing lists on. -/
inductive Reached (tasks : Spec) : String → Prop where
  | start {name : String} : tasks.raw.hasField name = true →
      (∀ other i, ¬tasks.Lists other i name) → Reached tasks name
  | onward {name next : String} {i : Nat} : Reached tasks name → tasks.Lists name i next →
    tasks.raw.hasField next = true → Reached tasks next

theorem kindsIn_tasks {schema : Value} (isSchema : partSchema .tasks member = .ok schema) :
    kindsIn schema "properties" = [] ∧
      kindsIn schema "patternProperties" = [(Schema.wordPatternText, .task)] := by
  unfold partSchema at isSchema
  split at isSchema
  · cases Except.ok.inj isSchema
    decide +kernel
  · have merged :
        (Schema.merge true (Kind.header .tasks) (Kind.written .tasks)).toOption.all fun schema =>
        kindsIn schema "properties" = [] ∧
          kindsIn schema "patternProperties" = [(Schema.wordPatternText, .task)] := by
      decide +kernel
    rw [isSchema] at merged
    simpa [Except.toOption] using merged

theorem NamesTasks.parts (named : tasks.NamesTasks) :
    (∃ entries, tasks.raw = .map entries ∧ ∀ entry ∈ entries, ∃ name, entry.1 = .str name) ∧
      ∀ name, tasks.raw.hasField name = true → ∃ task, tasks.part? name = some task ∧
        IsPart .task task ∧ ∀ transition ∈ task.next, transition.namesTargets = true := by
  obtain ⟨fuel, given, name, member, made⟩ := named.made
  obtain ⟨less, schema, properties, patterns, isSchema, areProperties, arePatterns, -, -, -,
    parts⟩ := buildWithin_eq_ok made
  rw [(kindsIn_tasks isSchema).1] at areProperties
  rw [(kindsIn_tasks isSchema).2] at arePatterns
  obtain rfl : [] = properties := Except.ok.inj areProperties
  obtain ⟨areTasks, entries, raw, all⟩ := patternParts_eq_ok arePatterns
  refine ⟨⟨entries, raw, fun entry isEntry => (all entry isEntry).imp fun _ isText => isText.1⟩,
    fun name there => ?_⟩
  have names := named.names name there
  simp only [namesTask, Bool.and_eq_true] at names
  obtain ⟨v, found⟩ := Option.isSome_iff_exists.mp there
  rw [Value.field, found] at names
  rw [raw] at found
  obtain ⟨_, same, hasPart⟩ := all _ (mem_of_getStr? found)
  cases same
  obtain ⟨part, isPart, same⟩ := hasPart names.1.1 names.2
  have isSome : (tasks.part? name).isSome = true := by
    rw [part?, Option.isSome_map, List.find?_isSome, parts]
    exact ⟨part, isPart, beq_iff_eq.mpr same⟩
  obtain ⟨task, isTask⟩ := Option.isSome_iff_exists.mp isSome
  have mem := mem_of_part? isTask
  refine ⟨task, isTask, ?_, named.targets _ mem⟩
  rw [parts] at mem
  obtain ⟨v, made⟩ := areTasks _ mem
  exact ⟨less, v, made⟩

structure Shows (tasks : Spec) (step : Step) : Prop where
  there : tasks.raw.hasField step.name = true
  plain : step.odd = []
  lists : ∀ i target, Command.isName target = false →
    ((∃ branch, step.branches[i]? = some branch ∧ target ∈ branch.targets) ↔
      tasks.Lists step.name i target)

theorem NamesTasks.exists_step (named : tasks.NamesTasks) {name : String}
    (there : tasks.raw.hasField name = true) :
    ∃ property step, tasks.property name = .ok property ∧ toStep name property = .ok step ∧
      tasks.Shows step := by
  obtain ⟨task, isTask, isPart, targets⟩ := named.parts.2 name there
  obtain ⟨areTransitions, parts⟩ := isPart.transitions
  have written {transition : Spec} (isNext : transition ∈ task.next) :=
    (parts transition isNext).exists_read (targets transition isNext)
  obtain ⟨branches, mapped⟩ :=
    exists_mapM fun transition isNext => (written isNext).imp fun _ made => made.1
  have plain : oddOf branches = [] := by
    refine oddOf_eq_nil fun one isOne => ?_
    obtain ⟨transition, isNext, made⟩ := exists_of_mem_mapM mapped one isOne
    obtain ⟨_, made', isPlain, -⟩ := written isNext
    cases Except.ok.inj (made.symm.trans made')
    exact isPlain
  have inOrder : checkOrder branches = .ok () := by
    rw [checkOrder, plain]
    rfl
  refine ⟨.spec task, _, property_of_part? isTask,
    toStep_eq_ok.mpr ⟨task, _, branches, rfl, areTransitions, mapped, inOrder, rfl⟩, there, plain,
    fun i target free => ?_⟩
  have same := getElem?_mapM mapped i
  rw [List.getElem?_map]
  constructor
  · rintro ⟨_, isOne, isTarget⟩
    obtain ⟨one, isWritten, rfl⟩ := Option.map_eq_some_iff.mp isOne
    rw [isWritten] at same
    obtain ⟨transition, isNext, made⟩ := Option.map_eq_some_iff.mp same
    obtain ⟨other, made', -, -, targets⟩ := written (List.mem_of_getElem? isNext)
    cases Except.ok.inj (made.symm.trans made')
    exact ⟨there, task, transition, isTask, isNext, (targets target free).mp isTarget⟩
  · rintro ⟨-, other, transition, isOther, isNext, isListed⟩
    cases Option.some.inj (isTask.symm.trans isOther)
    obtain ⟨one, made, -, -, targets⟩ := written (List.mem_of_getElem? isNext)
    rw [isNext, Option.map_some, made] at same
    obtain ⟨_, isOne, same⟩ := Option.map_eq_some_iff.mp same.symm
    cases Except.ok.inj same
    exact ⟨_, Option.map_eq_some_iff.mpr ⟨_, isOne, rfl⟩, (targets target free).mpr isListed⟩

theorem NamesTasks.exists_flow (named : tasks.NamesTasks) :
    ∃ flow, tasks.flow = .ok flow ∧ (∀ step ∈ flow.steps, tasks.Shows step) ∧
      ∀ name, tasks.raw.hasField name = true → name ∈ flow.steps.map (·.name) := by
  obtain ⟨entries, raw, texts⟩ := named.parts.1
  have areKeys : tasks.keys = .ok (Entries.keys entries) := by rw [keys, raw]
  have there {key : Value} (isKey : key ∈ Entries.keys entries) : ∃ name, key = .str name ∧
      tasks.raw.hasField name = true := by
    obtain ⟨entry, isEntry, rfl⟩ := List.mem_map.mp isKey
    obtain ⟨name, same⟩ := texts entry isEntry
    exact ⟨name, same, raw ▸ Value.hasField_iff.mpr (same ▸ isKey)⟩
  obtain ⟨keyed, areKeyed⟩ : ∃ keyed, tasks.keyed = .ok keyed := by
    unfold Spec.keyed
    rw [areKeys]
    refine exists_mapM fun key isKey => ?_
    obtain ⟨name, rfl, known⟩ := there isKey
    obtain ⟨property, -, isProperty, -⟩ := named.exists_step known
    exact ⟨(name, property), bind_eq_ok.mpr ⟨property, isProperty, rfl⟩⟩
  obtain ⟨_, same, mapped⟩ := bind_eq_ok.mp areKeyed
  cases Except.ok.inj (areKeys.symm.trans same)
  obtain ⟨steps, areSteps⟩ : ∃ steps, keyed.mapM (fun one => toStep one.1 one.2) = .ok steps := by
    refine exists_mapM fun one isOne => ?_
    obtain ⟨key, isKey, made⟩ := exists_of_mem_mapM mapped one isOne
    obtain ⟨name, rfl, known⟩ := there isKey
    obtain ⟨property, isProperty, made⟩ := bind_eq_ok.mp made
    cases Except.ok.inj made
    obtain ⟨_, step, same, made, -⟩ := named.exists_step known
    cases Except.ok.inj (isProperty.symm.trans same)
    exact ⟨step, made⟩
  have described : tasks.flow = .ok ⟨steps⟩ := bind_eq_ok.mpr ⟨keyed, areKeyed,
    bind_eq_ok.mpr ⟨steps, areSteps, rfl⟩⟩
  refine ⟨⟨steps⟩, described, fun step mem => ?_, fun name known => ?_⟩
  · obtain ⟨known, property, isProperty, made⟩ := step_of_flow described mem
    obtain ⟨_, _, same, made', shows⟩ := named.exists_step known
    cases Except.ok.inj (isProperty.symm.trans same)
    cases Except.ok.inj (made.symm.trans made')
    exact shows
  · obtain ⟨one, isOne, made⟩ :=
      mem_of_mapM mapped (.str name) (Value.hasField_iff.mp (raw ▸ known))
    obtain ⟨property, -, made⟩ := bind_eq_ok.mp made
    cases Except.ok.inj made
    obtain ⟨step, isStep, made⟩ := mem_of_mapM areSteps _ isOne
    obtain ⟨_, _, _, -, -, -, -, rfl⟩ := toStep_eq_ok.mp made
    exact List.mem_map_of_mem isStep

/-! ### Targets that are not defined -/

section Described

variable {flow : Flow} (named : tasks.NamesTasks) (shows : ∀ step ∈ flow.steps, tasks.Shows step)
  (all : ∀ name, tasks.raw.hasField name = true → name ∈ flow.steps.map (·.name))

include shows all

theorem has_eq_hasTask (name : String) : flow.has name = tasks.hasTask name := by
  unfold Flow.has hasTask
  congr 1
  rw [Bool.eq_iff_iff, Flow.defines_iff]
  refine ⟨fun known => ?_, all name⟩
  obtain ⟨step, mem, rfl⟩ := List.mem_map.mp known
  exact (shows step mem).there

include named

theorem aims_iff {name target : String} {i : Nat} (free : Command.isName target = false) :
    flow.Aims name i target ↔ tasks.Lists name i target := by
  constructor
  · rintro ⟨step, branch, found, isBranch, isTarget⟩
    obtain ⟨link, goes, -⟩ := Flow.leads_iff.mpr ⟨i, step, branch, found, isBranch, isTarget⟩
    obtain ⟨mem, rfl⟩ := Flow.mem_of_step found goes.notCommand
    exact ((shows step mem).lists i target free).mp ⟨branch, isBranch, isTarget⟩
  · intro lists
    obtain ⟨step, found⟩ := Flow.has_iff.mp (Flow.has_of_mem (all name lists.1))
    obtain ⟨mem, rfl⟩ := Flow.mem_of_step found (named.unreserved lists.1)
    obtain ⟨branch, isBranch, isTarget⟩ := ((shows step mem).lists i target free).mpr lists
    exact ⟨step, branch, found, isBranch, isTarget⟩

theorem Reached.reaches {name : String} (reached : tasks.Reached name) : flow.Reaches name := by
  induction reached with
  | @start name there unlisted =>
    refine .start (Flow.mem_startTasks.mpr ⟨all name there, ?_⟩)
    rw [Flow.isEmpty_prevTasks, List.all_eq_true]
    intro step mem
    rw [named.unreserved (shows step mem).there, Bool.false_or, Bool.not_eq_true',
      List.any_eq_false]
    intro branch isBranch isTarget
    obtain ⟨i, isBranch⟩ := List.mem_iff_getElem?.mp isBranch
    exact unlisted step.name i (((shows step mem).lists i name (named.unreserved there)).mp
      ⟨branch, isBranch, by simpa using isTarget⟩)
  | onward _ lists there ih =>
    exact .onward ih (Flow.leads_iff.mpr
      ⟨_, (aims_iff named shows all (named.unreserved there)).mpr lists⟩)

theorem reached_of_reaches {name : String} (reaches : flow.Reaches name)
    (there : tasks.raw.hasField name = true) : tasks.Reached name := by
  induction reaches with
  | start isStart =>
    exact .start there fun other i lists => Flow.not_leads_of_start isStart
      (Flow.leads_iff.mpr ⟨i, (aims_iff named shows all (named.unreserved there)).mpr lists⟩)
  | onward _ leads ih =>
    obtain ⟨i, isAim⟩ := Flow.leads_iff.mp leads
    have lists := (aims_iff named shows all (named.unreserved there)).mp isAim
    exact .onward (ih lists.1) lists there

end Described

end Spec

def Flow.Undefined.finding (u : Undefined) (place : Place) : Finding :=
  let branch := (place.entry u.task).transition u.branch
  .plain ⟨branch.spec ++ ".do", branch.schema ++ ".properties.do"⟩
  ("The task \"" ++ u.target ++ "\" is not defined.")

namespace Spec

variable {tasks : Spec}

/-- The search for undefined targets ends, and finds those which a task that can be reached lists
and which are neither tasks nor commands, all of them and nothing else. -/
theorem exists_detectUndefined (named : tasks.NamesTasks) (place : Place) :
    ∃ found : List Flow.Undefined,
    tasks.detectUndefined (some place) = .ok (found.map (·.finding place)) ∧ ∀ u, u ∈ found ↔
      tasks.Reached u.task ∧ tasks.Lists u.task u.branch u.target ∧
        tasks.hasTask u.target = false := by
  obtain ⟨flow, described, shows, all⟩ := named.exists_flow
  obtain ⟨found, searched, reports⟩ :=
    Flow.exists_undefinedTasks fun step mem => (shows step mem).plain
  refine ⟨found, bind_eq_ok.mpr ⟨flow, described, ?_⟩, fun u => ?_⟩
  · split
    case isTrue noStart =>
      have none : found = [] := List.eq_nil_iff_forall_not_mem.mpr fun u reported =>
        ((reports u).mp reported).1.startTasks_ne_nil (List.isEmpty_iff.mp noStart)
      rw [none]
      rfl
    case isFalse => exact bind_eq_ok.mpr ⟨place, rfl, bind_eq_ok.mpr ⟨found, searched, rfl⟩⟩
  · rw [reports, has_eq_hasTask shows all]
    constructor
    · rintro ⟨reaches, isAim, undefined⟩
      have lists := (aims_iff named shows all (Bool.or_eq_false_iff.mp undefined).1).mp isAim
      exact ⟨reached_of_reaches named shows all reaches lists.1, lists, undefined⟩
    · rintro ⟨reached, lists, undefined⟩
      exact ⟨reached.reaches named shows all,
        (aims_iff named shows all (Bool.or_eq_false_iff.mp undefined).1).mpr lists, undefined⟩

/-- Drafts that are reviewed again and again. Nobody says how to publish them or to put them
away. -/
def drafts : Value := .fields [
  ("prepare", .fields [("next", .list [.fields [("do", .str "draft, publish")]])]),
  ("draft", .fields [("next", .list [.fields [("do", .list [.str "review", .str "archive"])]])]),
  ("review", .fields [("next", .list [.fields [("do", .str "draft")]])])]

theorem exists_detectUndefined_drafts : ∃ tasks, make .tasks drafts = .ok tasks ∧ tasks.NamesTasks ∧
    ∃ found : List Flow.Undefined, tasks.detectUndefined (some ⟨"tasks", "properties.tasks"⟩) =
      .ok (found.map (·.finding ⟨"tasks", "properties.tasks"⟩)) ∧ ∀ u, u ∈ found ↔
        tasks.Reached u.task ∧ tasks.Lists u.task u.branch u.target ∧
          tasks.hasTask u.target = false := by
  obtain ⟨tasks, made, checked⟩ : ∃ tasks, make .tasks drafts = .ok tasks ∧
      (tasks.keys.toOption.all (·.all fun key => key.asStr?.all tasks.namesTask) &&
        tasks.parts.all fun part => part.2.next.all namesTargets) = true :=
    exists_of_any (by decide +kernel)
  obtain ⟨names, targets⟩ := Bool.and_eq_true_iff.mp checked
  have named : tasks.NamesTasks := ⟨⟨_, _, _, _, made⟩, forall_hasField names, fun part isPart =>
    List.all_eq_true.mp (List.all_eq_true.mp targets part isPart)⟩
  exact ⟨tasks, made, named, exists_detectUndefined named _⟩

/-- A name that is no word is not one of a command, and a task under it says something, but nothing
is found out. -/
theorem detectUndefined_ne_ok_of_hyphen : ∃ tasks,
    make .tasks (.fields [("a-b", .fields [("action", .str "core.noop")])]) = .ok tasks ∧
      (∀ name, tasks.raw.hasField name = true →
        (!Command.isName name && (tasks.raw.field name).truthy) = true) ∧
      ∀ place found, tasks.detectUndefined (some place) ≠ .ok found := by
  obtain ⟨tasks, made, checked⟩ :
      ∃ tasks, make .tasks (.fields [("a-b", .fields [("action", .str "core.noop")])]) = .ok tasks ∧
      (tasks.keys.toOption.all (·.all fun key => key.asStr?.all fun name =>
        !Command.isName name && (tasks.raw.field name).truthy) &&
          tasks.flow.toOption.isNone) = true :=
    exists_of_any (by decide +kernel)
  obtain ⟨names, failed⟩ := Bool.and_eq_true_iff.mp checked
  refine ⟨tasks, made, forall_hasField names, fun place found told => ?_⟩
  obtain ⟨flow, described, -⟩ := bind_eq_ok.mp told
  rw [described] at failed
  cases failed

end Spec

end Orchestration
