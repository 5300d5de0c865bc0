import Orchestration.Conductor.Basic
import Orchestration.Proofs.Conducting
import Orchestration.Proofs.Copying
import Orchestration.Proofs.Outline

/-!
The course of a conductor: the moves that its parts make.

The specification, the input and the parent of a conductor never change. A graph is composed once.
-/

namespace Orchestration

open Relation (ReflTransGen)

namespace Conductor

inductive Quiet : Conductor → Conductor → Prop where
  | state {c : Conductor} {s : State} : State.Quiet c.state s → Quiet c { c with state := s }
  | compose {c : Conductor} {g : Graph} : c.graph? = none → c.spec.compose = .ok g →
      Quiet c { c with graph? := some g }
  | record (c : Conductor) (log errors : List Value) :
      Quiet c { c with log := log, errors := errors }

inductive Move : Conductor → Conductor → Prop where
  | quiet {c d : Conductor} : Quiet c d → Move c d
  | state {c : Conductor} {s : State} : State.Move c.state s → Move c { c with state := s }
  | output (c : Conductor) (v : Value) : Move c { c with output := v }

inductive Charts : Conductor → Conductor → Prop where
  | refl (c : Conductor) : Charts c c
  | compose {c : Conductor} {g : Graph} : c.graph? = none → c.spec.compose = .ok g →
      Charts c { c with graph? := some g }

abbrev Quietly : Conductor → Conductor → Prop := ReflTransGen Quiet

abbrev Moves : Conductor → Conductor → Prop := ReflTransGen Move

def Steadily (c d : Conductor) : Prop := Moves c d ∧ d.state.outline = c.state.outline

variable {c d : Conductor}

instance : Std.Refl Charts := ⟨.refl⟩

instance : IsTrans Conductor Charts where
  trans _ _ _ first second := by
    cases first with
    | refl => exact second
    | compose missing composed =>
      cases second with
      | refl => exact .compose missing composed
      | compose unknown => cases unknown

theorem Charts.quietly (charts : Charts c d) : Quietly c d := by
  cases charts with
  | refl => exact .refl
  | compose missing composed => exact .single (.compose missing composed)

theorem Charts.state_eq (charts : Charts c d) : d.state = c.state := by
  cases charts <;> rfl

/-- The graph is composed in the same way whatever the state is. -/
theorem Charts.withState (charts : Charts c d) (s : State) :
    Charts { c with state := s } { d with state := s } := by
  cases charts with
  | refl => exact .refl _
  | compose missing composed => exact .compose missing composed

theorem Quietly.moves (quietly : Quietly c d) : Moves c d :=
  ReflTransGen.mono (fun _ _ quiet => Move.quiet quiet) _ _ quietly

theorem Moves.keep (holds : Conductor → Prop) (step : ∀ c d, Move c d → holds c → holds d)
    (moves : Moves c d) (start : holds c) : holds d := by
  induction moves with
  | refl => exact start
  | tail _ move ih => exact step _ _ move ih

/-- What the moves of states keep, the moves of conductors keep of their states. -/
theorem Moves.keepState (holds : State → Prop) (step : ∀ s t, State.Move s t → holds s → holds t)
    (moves : Moves c d) (start : holds c.state) : holds d.state := by
  refine moves.keep (fun d => holds d.state) ?_ start
  intro d e move kept
  cases move with
  | quiet quiet =>
    cases quiet with
    | state quiet => exact step _ _ (.quiet quiet) kept
    | compose | record => exact kept
  | state move => exact step _ _ move kept
  | output => exact kept

theorem Moves.grows (moves : Moves c d) : c.state.Grows d.state :=
  moves.keepState (State.Grows c.state) (fun _ _ move grown => grown.trans move.grows)
    (.refl c.state)

theorem Moves.grounded (moves : Moves c d) (grounded : c.state.Grounded) : d.state.Grounded :=
  moves.keepState State.Grounded (fun _ _ => State.Move.grounded) grounded

theorem Moves.unaccounted {index : Nat} (moves : Moves c d)
    (unaccounted : c.state.Unaccounted index) : d.state.Unaccounted index :=
  moves.keepState (·.Unaccounted index) (fun _ _ => State.Move.unaccounted) unaccounted

theorem Moves.spec_eq (moves : Moves c d) : d.spec = c.spec := by
  refine moves.keep (·.spec = c.spec) ?_ rfl
  intro _ _ move same
  cases move with
  | quiet quiet => cases quiet <;> exact same
  | state => exact same
  | output => exact same

theorem Moves.graph_eq {g : Graph} (moves : Moves c d) (known : c.graph? = some g) :
    d.graph? = some g := by
  refine moves.keep (·.graph? = some g) ?_ known
  intro _ _ move known
  cases move with
  | quiet quiet =>
    cases quiet with
    | state | record => exact known
    | compose missing => cases missing.symm.trans known
  | state => exact known
  | output => exact known

theorem Charts.eq_of_graph {g : Graph} (charts : Charts c d) (known : c.graph? = some g) :
    d = c := by
  cases charts with
  | refl => rfl
  | compose missing => cases missing.symm.trans known

/-- What quiet moves of states leave as it is, quiet moves of conductors leave as it is. -/
theorem Quietly.view_eq {α : Type} (view : State → α)
    (same : ∀ s t, State.Quiet s t → view t = view s) (quietly : Quietly c d) :
    view d.state = view c.state := by
  induction quietly with
  | refl => rfl
  | tail _ quiet ih =>
    cases quiet with
    | state quiet => exact (same _ _ quiet).trans ih
    | compose | record => exact ih

theorem Quietly.outline_eq (quietly : Quietly c d) : d.state.outline = c.state.outline :=
  quietly.view_eq State.outline fun _ _ quiet => quiet.outline_eq

instance : Std.Refl Steadily := ⟨fun _ => ⟨.refl, rfl⟩⟩

instance : IsTrans Conductor Steadily where
  trans _ _ _ first second := ⟨first.1.trans second.1, second.2.trans first.2⟩

theorem Quietly.steadily (quietly : Quietly c d) : Steadily c d :=
  ⟨quietly.moves, quietly.outline_eq⟩

theorem Quietly.grows (quietly : Quietly c d) : c.state.Grows d.state := quietly.moves.grows

theorem Quietly.grounded (quietly : Quietly c d) (grounded : c.state.Grounded) : d.state.Grounded :=
  quietly.moves.grounded grounded

end Conductor

namespace Conducting.Runs

open Conductor

variable {α β : Type} {f : Unit → Conducting β} {m : Conducting α} {c : Conductor}
  {expected : α → Conductor → Prop}

theorem quietly (runs : Runs Charts m c expected) :
    Runs Quietly m c fun a d => Charts c d ∧ expected a d :=
  ⟨runs.1.quietly, fun _ _ found => runs.answer found⟩

theorem moves (runs : Runs Quietly m c expected) :
    Runs Moves m c fun a d => Quietly c d ∧ expected a d :=
  ⟨runs.1.moves, fun _ _ found => runs.answer found⟩

theorem steadily (runs : Runs Quietly m c expected) : Runs Steadily m c expected :=
  ⟨runs.1.steadily, runs.2⟩

theorem moved (runs : Runs Steadily m c expected) :
    Runs Moves m c fun a d => Steadily c d ∧ expected a d :=
  ⟨runs.1.1, fun _ _ found => runs.answer found⟩

theorem bind_quietMove {expected : β → Conductor → Prop}
    (change : State → State) (quiet : State.Quiet c.state (change c.state))
    (rest : Runs Quietly (f ()) { c with state := change c.state } expected) :
    Runs Quietly (Conductor.modifyState change >>= f) c expected :=
  .bind_modifyState change (.single (.state quiet)) rest

theorem bind_move {expected : β → Conductor → Prop}
    (change : State → State) (move : State.Move c.state (change c.state))
    (rest : Runs Moves (f ()) { c with state := change c.state } expected) :
    Runs Moves (Conductor.modifyState change >>= f) c expected :=
  .bind_modifyState change (.single (.state move)) rest

theorem bind_moved {expected : β → Conductor → Prop}
    (change : State → State) (move : State.Move c.state (change c.state))
    (rest : ∀ d, Moves c d → Runs Moves (f ()) d expected) :
    Runs Moves (Conductor.modifyState change >>= f) c expected :=
  .bind_move change move (rest _ (.single (.state move)))

/-- After a quiet move only that it was one is needed. -/
theorem bind_quieted {expected : β → Conductor → Prop}
    (change : State → State) (quiet : State.Quiet c.state (change c.state))
    (rest : ∀ d, Quietly c d → Runs Moves (f ()) d expected) :
    Runs Moves (Conductor.modifyState change >>= f) c expected :=
  .bind_move change (.quiet quiet) (rest _ (.single (.state quiet)))

theorem move (f : State → State) {expected : Unit → Conductor → Prop}
    (move : State.Move c.state (f c.state)) (holds : expected () { c with state := f c.state }) :
    Runs Moves (Conductor.modifyState f) c expected :=
  .of_modifyState f (.single (.state move)) holds

end Conducting.Runs

namespace Conductor

open Conducting (Runs)

variable {c : Conductor}

/-! ### The parts that every computation uses -/

theorem graph_runs (c : Conductor) : Runs Charts graph c fun g d => d.graph? = some g := by
  unfold graph
  refine .bind_get ?_
  cases known : c.graph? with
  | some g => exact .pure known
  | none =>
    refine .bind_get (.bind_ofExcept fun g composed => ?_)
    exact .bind_modify _ (.compose known composed) (.pure rfl)

theorem tasks_runs (c : Conductor) : Runs Charts tasks c fun _ d => d = c := by
  unfold tasks
  exact .bind_get (.ofExcept _ fun _ _ => rfl)

theorem taskSpec_runs (c : Conductor) (name : String) :
    Runs Charts (taskSpec name) c fun _ d => d = c := by
  unfold taskSpec
  exact .bind_get (.ofExcept _ fun _ _ => rfl)

theorem logEntry_runs (c : Conductor) (type message : Value) (about : About) (result data : Value) :
    Runs Quietly (logEntry type message about result data) c fun _ d => d.state = c.state := by
  unfold logEntry
  dsimp only
  split
  · exact .throw _
  · split
    · exact .of_modify _ (.single (.record c c.log _)) rfl
    · exact .of_modify _ (.single (.record c _ c.errors)) rfl

def noting (errors : List Value) (entry : Value) : List Value :=
  if errors.any (· == entry) then errors else errors ++ [entry]

def notingAll (about : About) (noted : List Value) (errors : List Error) : List Value :=
  errors.foldl
    (fun noted e => noting noted (logValue (.str "error") (.str e.line) about .null .null)) noted

theorem result_logEntry (c : Conductor) (message : Value) (about : About) (result data : Value) :
    Conducting.result (logEntry (.str "error") message about result data) c =
      (.ok (), { c with
        errors := noting c.errors (logValue (.str "error") message about result data) }) := by
  simp only [logEntry, logTypes, Value.str_beq]
  rfl

theorem result_logError (e : Error) (about : About) (c : Conductor) :
    Conducting.result (logError e about) c =
      (.ok (), { c with errors := notingAll about c.errors [e] }) :=
  result_logEntry c ..

theorem result_logErrors (errors : List Error) (about : About) (c : Conductor) :
    Conducting.result (logErrors errors about) c =
      (.ok (), { c with errors := notingAll about c.errors errors }) := by
  induction errors generalizing c with
  | nil => rfl
  | cons e rest ih =>
    exact (Conducting.result_bind_of_ok (result_logError e about c)).trans (ih _)

theorem notingAll_ne_nil {about : About} {noted : List Value} {errors : List Error}
    (some : noted ≠ [] ∨ errors ≠ []) : notingAll about noted errors ≠ [] := by
  induction errors generalizing noted with
  | nil => simpa [notingAll] using some
  | cons e rest ih =>
    refine ih (.inl ?_)
    dsimp only [noting]
    split
    case isTrue there =>
      rintro rfl
      cases there
    case isFalse => simp

theorem logError_runs (c : Conductor) (e : Error) (about : About) :
    Runs Quietly (logError e about) c fun _ d => d.state = c.state :=
  logEntry_runs c ..

theorem logErrors_runs (c : Conductor) (errors : List Error) (about : About) :
    Runs Quietly (logErrors errors about) c fun _ _ => True :=
  .forM fun e _ d _ => (logError_runs d e about).weaken fun _ _ _ _ => trivial

/-! ### Contexts -/

/-- A merged context holds what is inside contexts. -/
theorem gather_runs (grounded : c.state.Grounded) (indices : List Nat) :
    Runs Quietly (gather indices) c fun entries d =>
      Node.EveryEntry d.state.contexts.Inner entries := by
  unfold gather
  refine .bind_getState (.bind_modifyState _ (.single (.state (.gather c.state indices))) ?_)
  exact .ofExcept _ (grounded.marked.gather indices).2

theorem context_runs (grounded : c.state.Grounded) (indices : List Nat) :
    Runs Quietly (context indices) c fun _ _ => True := by
  unfold context
  exact .bind (gather_runs grounded indices) fun _ _ _ _ => .pure trivial

theorem withState_runs (c : Conductor) (context : Value) :
    Runs Quietly (withState context) c fun _ d => d = c := by
  unfold withState
  exact .bind_getState (.ofExcept _ fun _ _ => rfl)

theorem initialIndices_runs (c : Conductor) (task : String) (route : Nat) :
    Runs Quietly (initialIndices task route) c fun _ d => d = c := by
  unfold initialIndices
  refine .bind_getState ?_
  split
  · exact .pure rfl
  · split
    · exact .pure rfl
    · exact .throw _

theorem initialContext_runs (grounded : c.state.Grounded) (task : String) (route : Nat) :
    Runs Quietly (initialContext task route) c fun _ _ => True := by
  unfold initialContext
  refine .bind (initialIndices_runs c task route) fun indices d _ same => ?_
  subst same
  exact context_runs grounded indices

theorem workflowContext_runs (c : Conductor) : Runs Quietly workflowContext c fun _ d => d = c := by
  unfold workflowContext
  exact .bind_getState (.bind_ofExcept fun _ _ => .pure rfl)

end Conductor

end Orchestration
