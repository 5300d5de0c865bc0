import Orchestration.Conductor.Persistence
import Orchestration.Proofs.Copying
import Orchestration.Proofs.Course.Status

/-!
A fresh conductor.

If its input or its variables cannot be rendered, the workflow has failed and nothing is staged.
Otherwise there is one context and one route, and the tasks that start the workflow are staged.
-/

namespace Orchestration

namespace Rendering

/-- Nothing that has been rendered is without a mark. -/
structure Stamped (r : Rendering) : Prop where
  positive : 0 < r.nextMark
  context : r.context.Every (0 < ·)
  values : Node.EveryEntry (0 < ·) r.values

variable {r r' : Rendering}

theorem stamped_start (context : Value) {next : Nat} (positive : 0 < next) :
    (start context next).Stamped where
  positive := Nat.lt_of_lt_of_le positive (Node.le_stamp next _)
  context := Node.positive_stamp positive _
  values := trivial

theorem Stamped.assign [Engine] {name statement : Value} (stamped : r.Stamped)
    (assigned : r.assign name statement = .ok r') : r'.Stamped := by
  unfold Rendering.assign at assigned
  split at assigned
  case h_1 n evaluated =>
    have new := Node.positive_stamp stamped.positive n
    have context := stamped.context
    cases known : r.context with
    | map mark entries =>
      rw [known] at assigned context
      cases assigned
      exact
        { positive := Nat.lt_of_lt_of_le stamped.positive (Node.le_stamp _ n)
          context := ⟨context.1, context.2.put name new⟩
          values := stamped.values.put name new }
    | atom | list | tuple =>
      rw [known] at assigned
      cases assigned
  case h_2 =>
    cases assigned
    exact ⟨stamped.positive, stamped.context, stamped.values⟩
  case h_3 => cases assigned

theorem Stamped.assignAll [Engine] {entries : List Value} (stamped : r.Stamped)
    (assigned : r.assignAll entries = .ok r') : r'.Stamped := by
  refine foldlM_keep (fun r v r' stamped assigned => ?_) stamped assigned
  obtain ⟨entry, -, assigned⟩ := bind_eq_ok.mp assigned
  exact stamped.assign assigned

end Rendering

namespace Spec

variable {workflow : Spec} {given context : Value} {next : Nat} {r : Rendering}

theorem stamped_renderInput [Engine] (positive : 0 < next)
    (rendered : workflow.renderInput given context next = .ok r) : r.Stamped := by
  obtain ⟨entries, -, folded⟩ := bind_eq_ok.mp rendered
  refine foldlM_keep (fun r v r' stamped assigned => ?_) (Rendering.stamped_start _ positive) folded
  obtain ⟨entry, -, assigned⟩ := bind_eq_ok.mp assigned
  obtain ⟨v, -, assigned⟩ := bind_eq_ok.mp assigned
  exact stamped.assign assigned

theorem stamped_renderVars [Engine] (positive : 0 < next)
    (rendered : workflow.renderVars context next = .ok r) : r.Stamped := by
  obtain ⟨entries, -, assigned⟩ := bind_eq_ok.mp rendered
  exact (Rendering.stamped_start context positive).assignAll assigned

end Spec

namespace Conductor

theorem every_mergeRendered {p : Nat → Prop} {context merged : Node}
    {rendered : List (Value × Node)} (before : context.Every p) (given : Node.EveryEntry p rendered)
    (found : mergeRendered context rendered = .ok merged) : merged.Every p := by
  cases context with
  | map mark entries =>
    cases found
    have start : Blend.Within p ⟨entries, []⟩ := ⟨before.2, fun _ none => nomatch none⟩
    exact ⟨before.1, ((Blend.steps_absorb start given fun _ _ _ => trivial).within start).entries⟩
  | atom | list | tuple =>
    simp only [mergeRendered] at found
    split at found
    · cases found
      exact before
    · cases found

theorem every_entriesOf {p : Nat → Prop} {n : Node} (every : n.Every p) :
    Node.EveryEntry p (entriesOf n) := by
  cases n with
  | map mark entries => exact every.2
  | atom | list | tuple => trivial

/-- Nothing in the context with which a workflow starts is without a mark. -/
theorem positive_startContext [Engine] {c : Conductor} {context : Node} {errors : List Error}
    (found : startContext c = .ok (context, errors)) : context.Every (0 < ·) := by
  unfold startContext at found
  dsimp only at found
  split at found
  · cases found
  obtain ⟨input, given, found⟩ := bind_eq_ok.mp found
  obtain ⟨withInput, first, found⟩ := bind_eq_ok.mp found
  obtain ⟨vars, set, found⟩ := bind_eq_ok.mp found
  obtain ⟨withVars, second, found⟩ := bind_eq_ok.mp found
  cases found
  have called := Node.positive_stamp Nat.one_pos (Node.ofValue c.parent.copy)
  have next := Node.le_stamp 1 (Node.ofValue c.parent.copy)
  have inputStamped := Spec.stamped_renderInput (Nat.lt_of_lt_of_le Nat.one_pos next) given
  have varsStamped := Spec.stamped_renderVars inputStamped.positive set
  have before := every_mergeRendered called (every_entriesOf inputStamped.context) first
  exact every_mergeRendered before varsStamped.values second

/-! ### Staging -/

end Conductor

namespace State

def stageRoot (s : State) (v : Vertex) : State :=
  { s with nextMark := s.nextMark + 2 }.stage v.id 0 ⟨s.nextMark, [0]⟩
    ⟨s.nextMark + 1, []⟩ true none

def opened (context : Node) (roots : List Vertex) : State :=
  roots.foldl stageRoot { empty with contexts := Contexts.empty.push context, routes := [[]] }

end State

namespace Conductor

open Conducting (result)

theorem result_forM_stageRoot (roots : List Vertex) (c : Conductor) :
    result (roots.forM stageRoot) c =
      (.ok (), { c with state := roots.foldl State.stageRoot c.state }) := by
  induction roots generalizing c with
  | nil => rfl
  | cons v rest ih => exact ih { c with state := c.state.stageRoot v }

theorem result_graph_eq_ok {c d : Conductor} {g : Graph} (missing : c.graph? = none)
    (found : result graph c = (.ok g, d)) :
    c.spec.compose = .ok g ∧ d = { c with graph? := some g } := by
  unfold graph at found
  obtain ⟨_, _, same, found⟩ := Conducting.result_bind_eq_ok.mp found
  cases same
  rw [missing] at found
  obtain ⟨_, composed, found⟩ := Conducting.result_bind_ofExcept_eq_ok.mp found
  cases found
  exact ⟨composed, rfl⟩

/-- A fresh conductor has failed because something could not be rendered, or its first tasks are
staged. -/
theorem make_eq_ok [Engine] {spec : Spec} {parent input : Value} {c : Conductor}
    (made : make spec parent input = .ok c) : (∃ noted, noted ≠ [] ∧
      c = { create spec parent input
        with errors := noted, state := { State.empty with status := .failed } }) ∨ ∃ context g,
          startContext (create spec parent input) = .ok (context, []) ∧ spec.compose = .ok g ∧
      c = { create spec parent input with graph? := some g, state := .opened context g.roots } := by
  have started : result start (create spec parent input) = (.ok (), c) := by
    unfold make at made
    split at made
    case h_1 done =>
      cases made
      exact done
    case h_2 => cases made
  unfold start at started
  change result (ofExcept (startContext (create spec parent input)) >>= _) _ = _ at started
  obtain ⟨⟨context, errors⟩, found, started⟩ := Conducting.result_bind_ofExcept_eq_ok.mp started
  dsimp only at started
  by_cases none : errors = []
  · subst none
    change result (graph >>= fun g => g.roots.forM stageRoot)
      { create spec parent input with state := .opened context [] } = (.ok (), c) at started
    obtain ⟨g, d, composed, started⟩ := Conducting.result_bind_eq_ok.mp started
    rw [result_forM_stageRoot] at started
    cases started
    obtain ⟨composed, same⟩ := result_graph_eq_ok rfl composed
    exact .inr ⟨context, g, found, composed, same ▸ rfl⟩
  · have logged := result_logErrors errors .nothing (create spec parent input)
    refine .inl ⟨notingAll .nothing [] errors, notingAll_ne_nil (.inr none), ?_⟩
    rw [if_pos (by simpa using none), Conducting.result_bind_of_ok logged] at started
    cases started
    rfl

end Conductor

namespace State

variable {s : State}

theorem grounded_stageRoot (grounded : s.Grounded)
    (contexts : 0 < s.contexts.items.length) (v : Vertex) : (s.stageRoot v).Grounded := by
  have shared : { s with nextMark := s.nextMark + 2 }.Grounded :=
    (Quiet.share _).grounded ((Quiet.share s).grounded grounded)
  have routes : 0 < s.routes.length := (List.getElem?_eq_some_iff.mp grounded.branching.root).1
  have positive := grounded.positive
  refine (Move.stage _ v.id 0 ⟨s.nextMark, [0]⟩ ⟨s.nextMark + 1, []⟩ true none ?_).grounded shared
  exact
    { route := routes
      reads := .initial contexts
      links := fun link mem => by cases mem
      named := List.nodup_nil
      contextsMark := ⟨positive, by dsimp only; omega⟩
      prevMark := ⟨by dsimp only; omega, by dsimp only; omega⟩
      retryMark := fun shared mem => by cases mem }

theorem grounded_opened {context : Node} (positive : context.Every (0 < ·)) (roots : List Vertex) :
    (opened context roots).Grounded := by
  let first : State := { empty with contexts := Contexts.empty.push context, routes := [[]] }
  have start : first.Grounded :=
    { indexed := by
        intro key index
        constructor
        · intro found
          cases found
        · rintro ⟨task, route, -, there, -⟩
          cases there
      named := List.nodup_nil
      entries := fun e mem => by cases mem
      staged := fun t mem => by cases mem
      branching := ⟨rfl, fun i route found => by cases found⟩
      marked := Contexts.marked_push positive
      positive := Nat.one_pos
      status := .inr rfl }
  suffices general : ∀ s : State, s.Grounded → 0 < s.contexts.items.length →
      (roots.foldl stageRoot s).Grounded from
    general first start Nat.one_pos
  induction roots with
  | nil => exact fun s grounded _ => grounded
  | cons v rest ih =>
    intro s grounded contexts
    exact ih (s.stageRoot v) (grounded_stageRoot grounded contexts v) contexts

end State

/-- Where nothing went wrong, the state of a fresh conductor is grounded. -/
theorem Conductor.grounded_make [Engine] {spec : Spec} {parent input : Value} {c : Conductor}
    (made : make spec parent input = .ok c) (rendered : c.errors = []) : c.state.Grounded := by
  rcases make_eq_ok made with ⟨noted, some, rfl⟩ | ⟨context, g, found, -, rfl⟩
  · exact absurd rendered some
  · exact State.grounded_opened (positive_startContext found) g.roots

/-! ### A small workflow -/

namespace Sample

def workflow : Value := .fields [("tasks", .fields [
  ("first",
    .fields [("action", .str "core.noop"), ("next", .list [.fields [("do", .str "second")]])]),
  ("second", .fields [("action", .str "core.noop")])])]

end Sample

/-- What can be evaluated of a workflow that is written down and of a fresh conductor for it. -/
theorem Conductor.exists_make_of_any [Engine] {definition : Value} {p : Spec → Conductor → Bool}
    (checked : (Spec.make .workflow definition).toOption.any (fun spec =>
      (make spec .null .null).toOption.any (p spec)) = true) :
    ∃ spec c, Spec.make .workflow definition = .ok spec ∧ make spec .null .null = .ok c ∧
      p spec c = true := by
  obtain ⟨spec, specified, checked⟩ := exists_of_any checked
  obtain ⟨c, made, holds⟩ := exists_of_any checked
  exact ⟨spec, c, specified, made, holds⟩

end Orchestration
