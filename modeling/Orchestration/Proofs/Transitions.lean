import Orchestration.Proofs.Composition
import Orchestration.Proofs.Reporting

/-!
Going on along transitions.

A task goes along its transitions one after the other. What it went on to by one of them stays
staged while it goes along the others, and stays ready as long as enough of the tasks before it went
on to it. So in the end whatever the task went on to is staged, and nothing that can start is left
waiting.
-/

namespace Orchestration

namespace Graph

theorem barrier_of_hasBarrier {g : Graph} {id : String} (free : g.hasBarrier id = .ok false) :
    ∃ barrier, g.barrier id = .ok barrier ∧ barrier.truthy = false := by
  obtain ⟨barrier, found, none⟩ := bind_eq_ok.mp free
  refine ⟨barrier, found, ?_⟩
  have nothing : barrier.isNull = true ∨ (barrier == .str "") = true := by
    have same := Except.ok.inj none
    simpa only [Bool.and_eq_false_iff, Bool.not_eq_false'] using same
  rcases nothing with null | blank
  · cases barrier <;> first | rfl | cases null
  · rw [Value.eq_str_of_beq blank]
    rfl

theorem Numbered.target_eq {g : Graph} (numbered : g.Numbered) {e other : Edge}
    (inEdges : e ∈ g.edges) (otherInEdges : other ∈ g.edges)
    (same : State.transitionKey e.target e.key = State.transitionKey other.target other.key) :
    e.target = other.target := by
  obtain ⟨n, key⟩ := numbered e inEdges
  obtain ⟨m, otherKey⟩ := numbered other otherInEdges
  rw [key, otherKey] at same
  exact (State.transitionKey_inj same).1

end Graph

namespace Conductor

variable {s t : State} {g : Graph} {route : Nat}

/-! ### What comes in from one task -/

theorem inboundFrom_congr {edges : List Edge} {source : String}
    (same : ∀ edge ∈ edges, edge.source = source → taken t edge route = taken s edge route) :
    inboundFrom t edges source route = inboundFrom s edges source route := by
  unfold inboundFrom
  refine List.foldl_ext _ _ _ fun known edge mem => ?_
  obtain ⟨inEdges, leaves⟩ := List.mem_filter.mp mem
  rw [same edge inEdges (by simpa using leaves)]

theorem inboundFrom_eq_true {edges : List Edge} {edge : Edge} (inEdges : edge ∈ edges)
    (went : taken s edge route = some true) :
    inboundFrom s edges edge.source route = some true := by
  suffices general : ∀ (list : List Edge) (known : Option Bool), (known = some true ∨ edge ∈ list) →
      list.foldl (fun known edge =>
        if known == some true then known else (taken s edge route).or known) known = some true from
    general _ none (.inr (List.mem_filter.mpr ⟨inEdges, by simp⟩))
  intro list
  induction list with
  | nil => simp
  | cons first rest ih =>
    intro known either
    rw [List.foldl_cons]
    refine ih _ ?_
    rcases either with rfl | mem
    · exact .inl rfl
    · rcases List.mem_cons.mp mem with rfl | inRest
      · left
        split
        case isTrue same => simpa using same
        case isFalse => rw [went, Option.some_or]
      · exact .inr inRest

theorem isMet_congr {target : String}
    (same : ∀ source, inboundFrom t (g.prevTransitions target) source route =
      inboundFrom s (g.prevTransitions target) source route) :
    isMet g t target route = isMet g s target route := by
  simp only [isMet, inboundOf, same]

/-- A task that does not wait for others can start when one of them went on to it. -/
theorem isMet_of_taken {edge : Edge} {barrier : Value} (inEdges : edge ∈ g.edges)
    (went : taken s edge route = some true) (found : g.barrier edge.target = .ok barrier)
    (free : barrier.truthy = false) : isMet g s edge.target route = .ok true := by
  have comesIn : some true ∈ inboundOf g s edge.target route := by
    have leads : edge ∈ g.prevTransitions edge.target :=
      Graph.mem_prevTransitions.mpr ⟨inEdges, rfl⟩
    refine List.mem_map.mpr ⟨edge.source, ?_, inboundFrom_eq_true leads went⟩
    exact List.mem_eraseDups.mpr (List.mem_map_of_mem leads)
  have counted : 1 ≤ (inboundOf g s edge.target route).count (some true) :=
    List.count_pos_iff.mpr comesIn
  unfold isMet
  rw [found]
  change meets _ barrier _ = _
  simp [meets, free, counted]

end Conductor

namespace State

open Conductor (taken inboundFrom isMet inboundIn leadsOn Followers)

variable {s t : State} {g : Graph} {task target : String} {route way index : Nat}
  {edge other : Edge} {went : Bool} {entry : Entry} {found : Followers}
  {commands : List (Command × Nat)}

/-! ### Noting where a task went on to -/

theorem Noted.index?_eq (noted : Noted index edge went s t) (task : String) (route : Nat) :
    t.index? task route = s.index? task route := by
  rw [index?, index?, noted.tasks]

theorem Noted.getElem?_self (noted : Noted index edge went s t)
    (found : s.sequence[index]? = some entry) :
    t.sequence[index]? = some
      { entry with next := putNamed entry.next (transitionKey edge.target edge.key) went } := by
  rw [noted.sequence, List.getElem?_modify_eq, found]
  rfl

/-- What an entry noted is changed under one name only, and in one entry only. -/
theorem Noted.taken_eq (noted : Noted index edge went s t)
    (unlike : transitionKey other.target other.key ≠ transitionKey edge.target edge.key ∨
      s.index? other.source route ≠ some index) : taken t other route = taken s other route := by
  unfold taken latest?
  rw [noted.index?_eq, noted.sequence]
  cases found : s.index? other.source route with
  | none => rfl
  | some place =>
    simp only [Option.bind_some, List.getElem?_modify]
    split
    case isTrue same =>
      have different := unlike.resolve_right fun elsewhere => elsewhere (same ▸ found)
      cases s.sequence[place]? with
      | none => rfl
      | some entry => simp [lookup_putNamed_of_ne _ _ _ different]
    case isFalse => simp

theorem Noted.isMet_eq (noted : Noted index edge went s t) (indexed : Indexed s.tasks s.places)
    (latest : s.index? other.source route = some index) (inEdges : other ∈ g.edges)
    (wentThere : taken s other route = some true)
    (unlike : transitionKey other.target other.key ≠ transitionKey edge.target edge.key) :
    isMet g t other.target route = isMet g s other.target route := by
  refine Conductor.isMet_congr fun source => ?_
  by_cases same : source = other.source
  case pos =>
    have leads := Graph.mem_prevTransitions.mpr ⟨inEdges, rfl⟩
    rw [same, Conductor.inboundFrom_eq_true leads wentThere,
      Conductor.inboundFrom_eq_true leads ((noted.taken_eq (.inl unlike)).trans wentThere)]
  case neg =>
    refine Conductor.inboundFrom_congr fun e _ leaves => noted.taken_eq (.inr fun found => same ?_)
    exact leaves ▸ (indexed.task_eq latest found).1

theorem Noted.restage {u : State} (noted : Noted index edge went s t)
    (restaged : Restaged target way t u) : Noted index edge went s u :=
  ⟨restaged.tasks.trans noted.tasks, restaged.sequence.trans noted.sequence⟩

theorem Noted.renoted (noted : Noted index edge went s t)
    (status : t.status = s.status ∨ t.status = .failed) : Renoted index s t :=
  ⟨status, noted.tasks, _, fun _ => ⟨_, rfl⟩, noted.sequence⟩

theorem taken_of_lookup (latest : s.index? edge.source route = some index)
    (found : s.sequence[index]? = some entry) :
    taken s edge route = some
      ((entry.next.lookup (transitionKey edge.target edge.key)).getD false) := by
  simp only [taken, latest?, latest, Option.bind_some, found, Option.map_some]

/-! ### Going along one transition after the other -/

/-- A task is about to go on along its transitions: its entry is the latest, and its transitions
have names of their own. -/
structure Departs (g : Graph) (task : String) (route index : Nat) (s : State) : Prop where
  numbered : g.Numbered
  indexed : Indexed s.tasks s.places
  latest : s.index? task route = some index

theorem Departs.of_grounded (numbered : g.Numbered) (grounded : s.Grounded)
    (latest : s.index? task route = some index) : Departs g task route index s.outline where
  numbered := numbered
  indexed := by
    rw [tasks_outline, places_outline]
    exact grounded.indexed
  latest := latest

theorem Renoted.places_eq (renoted : Renoted index s t) : t.places = s.places := by
  obtain ⟨f, keeps, sequence⟩ := renoted.sequence
  have same : ∀ e, (f e).place = e.place := by
    intro e
    obtain ⟨next, changed⟩ := keeps e
    rw [changed]
    rfl
  have updated := places_updateEntry same s index
  rw [places, sequence]
  exact updated

theorem Departs.renote (departs : Departs g task route index s) (renoted : Renoted index s t) :
    Departs g task route index t where
  numbered := departs.numbered
  indexed := by
    rw [renoted.tasks, renoted.places_eq]
    exact departs.indexed
  latest := by
    rw [index?, renoted.tasks]
    exact departs.latest

theorem Departs.restage (departs : Departs g task route index s)
    (restaged : Restaged target way s t) : Departs g task route index t where
  numbered := departs.numbered
  indexed := by
    rw [restaged.tasks, places, restaged.sequence]
    exact departs.indexed
  latest := by
    rw [index?, restaged.tasks]
    exact departs.latest

theorem Renoted.refl (index : Nat) (s : State) : Renoted index s s :=
  ⟨.inl rfl, rfl, id, fun e => ⟨e.next, rfl⟩, by rw [List.modify_id]⟩

theorem Renoted.trans {u : State} (first : Renoted index s t) (second : Renoted index t u) :
    Renoted index s u where
  status := by
    rcases second.status with same | failed
    · rw [same]
      exact first.status
    · exact .inr failed
  tasks := second.tasks.trans first.tasks
  sequence := by
    obtain ⟨f, keeps, sequence⟩ := first.sequence
    obtain ⟨h, keepsNext, next⟩ := second.sequence
    refine ⟨h ∘ f, fun e => ?_, by rw [next, sequence, List.modify_modify_eq]⟩
    obtain ⟨afterFirst, changed⟩ := keeps e
    obtain ⟨afterSecond, changedNext⟩ := keepsNext (f e)
    exact ⟨afterSecond, by rw [Function.comp, changedNext, changed]⟩

theorem Restaged.isMet_eq (restaged : Restaged target way s t) (g : Graph)
    (task : String) (route : Nat) : isMet g t task route = isMet g s task route := by
  refine Conductor.isMet_congr fun source => Conductor.inboundFrom_congr fun edge _ _ => ?_
  simp only [taken, latest?, index?, restaged.tasks, restaged.sequence]

theorem prepared_updateStaged {x : Staged} {ready : Bool} (restaged : Restaged edge.target way s t)
    (there : t.staged? edge.target way = some x) (fresh : x.completed = false)
    (met : isMet g t edge.target route = .ok ready) :
    Prepared g route edge way s
      (t.updateStaged edge.target way fun x => { x with ready := ready }) where
  others := (restaged.trans (restaged_updateStaged t ..)).others
  staged := by
    have found := staged?_updateStaged t edge.target way (f := fun x => { x with ready := ready })
      (by intro _; rfl)
    rw [there] at found
    have here := List.find?_some found
    refine ⟨_, List.mem_of_find?_eq_some found, here, fresh, ?_⟩
    rw [(restaged_updateStaged t edge.target way _).isMet_eq]
    exact met

theorem Prepared.of_staged {u : State} (prepared : Prepared g route edge way t u)
    (same : t.staged = s.staged) : Prepared g route edge way s u :=
  ⟨fun x mem => prepared.others x (same ▸ mem), prepared.staged⟩

theorem Prepared.led_self (prepared : Prepared g route edge way s t) :
    ∃ x ∈ t.staged, x.task = edge.target ∧ x.completed = false ∧
      (isMet g t edge.target route = .ok true → x.ready = true) := by
  obtain ⟨x, mem, here, fresh, met⟩ := prepared.staged
  simp only [Staged.isAt, Bool.and_eq_true, beq_iff_eq] at here
  refine ⟨x, mem, here.1, fresh, fun enough => ?_⟩
  rw [met] at enough
  exact Except.ok.inj enough

/-- What a task went on to stays staged while it goes along another of its transitions. -/
theorem WentAlong.led {edges : List Edge} {entry changed : Entry}
    (along : WentAlong g route index edge found s t) (departs : Departs g task route index s)
    (leaves : ∀ e ∈ edges ++ [edge], e ∈ g.nextTransitions task) (fine : t.status ≠ .failed)
    (atIndex : s.sequence[index]? = some entry) (atIndexAfter : t.sequence[index]? = some changed)
    (led : Led g s route entry edges) : Led g t route changed (edges ++ [edge]) := by
  have course : ∃ went, Noted index edge went s t ∧
      (went = true → ∃ way, Prepared g route edge way s t) ∧
      (went = false → t.staged = s.staged) := by
    rcases along.course fine with ⟨noted, same, -⟩ | ⟨noted, way, prepared, -⟩
    · exact ⟨false, noted, by simp, fun _ => same⟩
    · exact ⟨true, noted, fun _ => ⟨way, prepared⟩, by simp⟩
  obtain ⟨went, noted, prepares, keeps⟩ := course
  obtain rfl := Option.some.inj (atIndexAfter.symm.trans (noted.getElem?_self atIndex))
  have sources : ∀ e ∈ edges ++ [edge], e ∈ g.edges ∧ e.source = task := fun e mem =>
    Graph.mem_nextTransitions.mp (leaves e mem)
  obtain ⟨edgeInEdges, -⟩ := sources edge (List.mem_append_right _ (List.mem_singleton_self _))
  intro other mem wentThere
  obtain ⟨inEdges, source⟩ := sources other mem
  rw [lookup_putNamed] at wentThere
  split at wentThere
  case isTrue sameKey =>
    -- Two transitions with one name lead to one task, and that has just been staged.
    obtain ⟨way, prepared⟩ := prepares (Option.some.inj wentThere)
    rw [departs.numbered.target_eq inEdges edgeInEdges sameKey]
    exact prepared.led_self
  case isFalse unlike =>
    have done : other ∈ edges := by
      rcases List.mem_append.mp mem with inDone | isNew
      · exact inDone
      · exact (unlike (by rw [List.mem_singleton.mp isNew])).elim
    obtain ⟨x, staged, target, fresh, ready⟩ := led other done wentThere
    have latest : s.index? other.source route = some index := source ▸ departs.latest
    have took : taken s other route = some true := by
      rw [taken_of_lookup latest atIndex, wentThere]
      rfl
    have same := noted.isMet_eq departs.indexed latest inEdges took unlike
    cases went with
    | false => exact ⟨x, (keeps rfl).symm ▸ staged, target, fresh, fun met => ready (same ▸ met)⟩
    | true =>
      obtain ⟨way, prepared⟩ := prepares rfl
      by_cases here : x.isAt edge.target way = true
      case pos =>
        have sameTarget : other.target = edge.target := by
          simp only [Staged.isAt, Bool.and_eq_true, beq_iff_eq] at here
          exact target.symm.trans here.1
        rw [sameTarget]
        exact prepared.led_self
      case neg =>
        have kept := prepared.others x staged (by simpa using here)
        exact ⟨x, kept, target, fresh, fun met => ready (same ▸ met)⟩

theorem Prepared.queued {command : Command × Nat} (prepared : Prepared g route edge command.2 s t)
    (inEdges : edge ∈ g.edges) (went : taken t edge route = some true)
    (named : command.1.name = edge.target) : Queued g t command := by
  obtain ⟨x, mem, here, fresh, met⟩ := prepared.staged
  refine ⟨x, mem, named ▸ here, fun free => ?_⟩
  obtain ⟨barrier, found, -⟩ := bind_eq_ok.mp met
  have enough := Conductor.isMet_of_taken inEdges went found (free barrier (named ▸ found))
  have ready : x.ready = true := Except.ok.inj (met.symm.trans enough)
  simp [Staged.isReady, ready, fresh]

theorem Departs.entryAt (departs : Departs g task route index s) :
    ∃ entry, s.sequence[index]? = some entry := by
  obtain ⟨entry, found, -⟩ := places_getElem?.mp (departs.indexed.index?_place departs.latest)
  exact ⟨entry, found⟩

theorem WentAlong.queued (along : WentAlong g route index edge found s t)
    (departs : Departs g task route index s) (leaves : edge ∈ g.nextTransitions task)
    (fine : t.status ≠ .failed) (queued : ∀ command ∈ commands, Queued g s command) :
    ∀ command ∈ commands ++ found.commands, Queued g t command := by
  intro command mem
  rcases along.course fine with ⟨-, same, none⟩ | ⟨noted, way, prepared, found⟩
  · rw [none, List.append_nil] at mem
    obtain ⟨x, staged, waits⟩ := queued command mem
    exact ⟨x, same ▸ staged, waits⟩
  · obtain ⟨inEdges, source⟩ := Graph.mem_nextTransitions.mp leaves
    obtain ⟨entry, atIndex⟩ := departs.entryAt
    have latest : t.index? edge.source route = some index := by
      rw [noted.index?_eq, source, departs.latest]
    have went : taken t edge route = some true := by
      rw [taken_of_lookup latest (noted.getElem?_self atIndex), lookup_putNamed_self]
      rfl
    rcases List.mem_append.mp mem with before | new
    · obtain ⟨x, staged, here, ready⟩ := queued command before
      by_cases again : x.isAt edge.target way = true
      case pos =>
        simp only [Staged.isAt, Bool.and_eq_true, beq_iff_eq] at here again
        obtain rfl : command.2 = way := here.2.symm.trans again.2
        exact prepared.queued inEdges went (here.1.symm.trans again.1)
      case neg => exact ⟨x, prepared.others x staged (by simpa using again), here, ready⟩
    · obtain ⟨named, rfl⟩ := found command new
      exact prepared.queued inEdges went named

theorem Renoted.entryAt (renoted : Renoted index s t) (found : s.sequence[index]? = some entry) :
    ∃ changed, t.sequence[index]? = some changed ∧ changed.status = entry.status := by
  obtain ⟨f, keeps, sequence⟩ := renoted.sequence
  obtain ⟨next, changed⟩ := keeps entry
  refine ⟨f entry, by rw [sequence, List.getElem?_modify_eq, found]; rfl, by rw [changed]⟩

theorem GoesOn.renoted {old new : Status}
    (goes : GoesOn g task route index old new commands s t) : Renoted index s t := by
  unfold GoesOn at goes
  split at goes
  · exact goes.toRenoted
  · exact goes.1 ▸ .refl index s

theorem Renoted.of_failed (renoted : Renoted index s t) :
    Renoted index s { t with status := .failed } :=
  ⟨.inr rfl, renoted.tasks, renoted.sequence⟩

theorem WentAlong.of_failed (renoted : Renoted index s t) (failed : t.status = .failed) :
    WentAlong g route index edge found s t :=
  ⟨renoted, fun fine => (fine failed).elim⟩

theorem WentOn.refl (g : Graph) (route index : Nat) (s : State) :
    WentOn g route index [] [] s s where
  toRenoted := .refl index s
  nowhere _ := rfl
  led _ _ _ edge mem := by cases mem
  queued _ command mem := by cases mem

theorem WentOn.step {r : State} {edges : List Edge}
    (on : WentOn g route index edges commands r s) (along : WentAlong g route index edge found s t)
    (departs : Departs g task route index r)
    (leaves : ∀ e ∈ edges ++ [edge], e ∈ g.nextTransitions task) :
    WentOn g route index (edges ++ [edge]) (commands ++ found.commands) r t where
  toRenoted := on.toRenoted.trans along.toRenoted
  nowhere empty := by simp at empty
  led fine changed atIndexAfter := by
    have before : s.status ≠ .failed := fun failed => fine (along.status.elim (·.trans failed) id)
    have departsNow := departs.renote on.toRenoted
    obtain ⟨entry, atIndex⟩ := departsNow.entryAt
    exact along.led departsNow leaves fine atIndex atIndexAfter (on.led before entry atIndex)
  queued fine := by
    have before : s.status ≠ .failed := fun failed => fine (along.status.elim (·.trans failed) id)
    have last : edge ∈ g.nextTransitions task :=
      leaves edge (List.mem_append_right _ (List.mem_singleton_self _))
    exact along.queued (departs.renote on.toRenoted) last fine (on.queued before)

/-- Whatever a task went on to is staged when it has gone along all its transitions. -/
theorem wentOn_of_chained {r : State} {done edges : List Edge}
    {found : List Followers} (on : WentOn g route index done commands r s)
    (chained : Conducting.ChainedAnswers (WentAlong g route index) edges found s t)
    (departs : Departs g task route index r)
    (leaves : ∀ e ∈ done ++ edges, e ∈ g.nextTransitions task) :
    WentOn g route index (done ++ edges) (commands ++ found.flatMap (·.commands)) r t := by
  induction edges generalizing done commands found s with
  | nil =>
    cases found with
    | nil =>
      cases chained
      simpa using on
    | cons => exact chained.elim
  | cons edge rest ih =>
    cases found with
    | nil => exact chained.elim
    | cons first others =>
      obtain ⟨middle, along, chained⟩ := chained
      rw [← List.singleton_append, ← List.append_assoc] at leaves
      have next := on.step along departs fun e mem => leaves e (List.mem_append_left _ mem)
      simpa using ih next chained leaves

/-! ### What is left when a task has gone on -/

theorem anyM_eq_true {α : Type} {p : α → Except Error Bool} {list : List α}
    (found : list.anyM p = .ok true) : ∃ a ∈ list, p a = .ok true := by
  induction list with
  | nil => cases found
  | cons a rest ih =>
    rw [List.anyM] at found
    obtain ⟨answer, here, found⟩ := bind_eq_ok.mp found
    cases answer with
    | true => exact ⟨a, List.mem_cons_self .., here⟩
    | false =>
      obtain ⟨b, mem, holds⟩ := ih found
      exact ⟨b, List.mem_cons_of_mem a mem, holds⟩

/-- A transition leads on if it has been taken, and not to go on with nothing; where it leads to a
join, the join can still be reached. -/
theorem leadsOn_eq_true {judgeJoins : Bool}
    (leads : leadsOn g s entry route judgeJoins edge = .ok true) :
    edge.target ≠ Command.continue.name ∧
      entry.next.lookup (transitionKey edge.target edge.key) = some true ∧
      (g.hasBarrier edge.target = .ok false ∨ judgeJoins = false ∨
        ∃ inbound, inboundIn g s edge.target route = .ok inbound ∧ inbound ≠ .unsatisfied) := by
  unfold leadsOn at leads
  split at leads
  · cases leads
  case isFalse other =>
    split at leads
    · cases leads
    case isFalse took =>
      obtain ⟨joins, found, leads⟩ := bind_eq_ok.mp leads
      have wentThere : entry.next.lookup (transitionKey edge.target edge.key) = some true := by
        cases looked : entry.next.lookup (transitionKey edge.target edge.key) with
        | none => simp [looked] at took
        | some went => simpa [looked] using took
      refine ⟨by simpa using other, wentThere, ?_⟩
      cases joins with
      | false => exact .inl found
      | true =>
        cases judgeJoins with
        | false => exact .inr (.inl rfl)
        | true =>
          obtain ⟨inbound, comesIn, same⟩ := bind_eq_ok.mp leads
          exact .inr (.inr ⟨inbound, comesIn, by simpa using Except.ok.inj same⟩)

/-- A join that can still be reached has been reached, or there is something left to do. -/
theorem inboundIn_eq_ok {inbound : Inbound} (found : inboundIn g s target route = .ok inbound)
    (reachable : inbound ≠ .unsatisfied) :
    isMet g s target route = .ok true ∨ s.hasActive = true ∨ s.hasReady = true := by
  unfold inboundIn at found
  obtain ⟨met, enough, found⟩ := bind_eq_ok.mp found
  cases met with
  | true => exact .inl enough
  | false =>
    right
    simp only [Bool.false_eq_true, if_false] at found
    split at found
    case isTrue left => simpa using (Bool.and_eq_true_iff.mp left).2
    case isFalse => exact (reachable (Except.ok.inj found).symm).elim

theorem isMet_of_inboundIn {inbound : Inbound} (found : inboundIn g s target route = .ok inbound) :
    isMet g s target route = .ok (inbound == .satisfied) := by
  unfold inboundIn at found
  obtain ⟨met, enough, found⟩ := bind_eq_ok.mp found
  rw [enough]
  cases met with
  | true => rw [← Except.ok.inj found]; rfl
  | false =>
    simp only [Bool.false_eq_true, if_false] at found
    split at found
    · rw [← Except.ok.inj found]; rfl
    · rw [← Except.ok.inj found]; rfl

theorem hasReady_of_staged {x : Staged} (staged : x ∈ s.staged) (ready : x.isReady = true) :
    s.hasReady = true := by
  have member : x ∈ s.ready := List.mem_filter.mpr ⟨staged, ready⟩
  simpa [hasReady] using List.ne_nil_of_mem member

theorem isCompleted_of_follows {judgeJoins : Bool} (latest : s.index? task route = some index)
    (atIndex : s.sequence[index]? = some entry) (follows : Follows g s task route judgeJoins true) :
    entry.isCompleted = true := by
  have found : s.latest? task route = some entry := by rw [latest?, latest]; exact atIndex
  rw [Follows, found] at follows
  dsimp only at follows
  split at follows
  case isTrue completed => exact completed
  case isFalse => cases follows

/-- If something follows a task that went on, and nothing is active, then something can be
started. -/
theorem hasReady_of_follows (latest : s.index? task route = some index)
    (atIndex : s.sequence[index]? = some entry) (led : Led g s route entry (g.nextTransitions task))
    (follows : Follows g s task route true true) (idle : s.hasActive = false) :
    s.hasReady = true := by
  have found : s.latest? task route = some entry := by rw [latest?, latest]; exact atIndex
  rw [Follows, found] at follows
  dsimp only at follows
  split at follows
  case isFalse => cases follows
  obtain ⟨edge, leaves, leads⟩ := anyM_eq_true follows
  obtain ⟨-, wentThere, waits⟩ := leadsOn_eq_true leads
  obtain ⟨x, staged, -, fresh, ready⟩ := led edge leaves wentThere
  have starts (met : isMet g s edge.target route = .ok true) : s.hasReady = true :=
    hasReady_of_staged staged (by simp [Staged.isReady, ready met, fresh])
  rcases waits with free | unjudged | ⟨inbound, comesIn, reachable⟩
  · obtain ⟨inEdges, rfl⟩ := Graph.mem_nextTransitions.mp leaves
    have took : taken s edge route = some true := by
      rw [taken_of_lookup latest atIndex, wentThere]
      rfl
    obtain ⟨barrier, known, none⟩ := Graph.barrier_of_hasBarrier free
    exact starts (Conductor.isMet_of_taken inEdges took known none)
  · cases unjudged
  · rcases inboundIn_eq_ok comesIn reachable with met | active | ready
    · exact starts met
    · cases idle.symm.trans active
    · exact ready

end State

end Orchestration
