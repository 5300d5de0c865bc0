import Mathlib.Logic.Relation
import Orchestration.Conductor.Basic

/-!
What computations of a conductor come to.

A computation gives an answer or fails, and leaves a conductor behind in either case. A statement
about all that a computation may leave behind is made with a relation between the conductor before
and the one after; what is said about the answer holds only where there is one. Both are proved part
by part.
-/

namespace Orchestration

theorem bind_eq_ok {α β : Type} {x : Except Error α} {f : α → Except Error β} {b : β} :
    x >>= f = .ok b ↔ ∃ a, x = .ok a ∧ f a = .ok b := by
  cases x with
  | error e => simp [bind, Except.bind]
  | ok a => simp [bind, Except.bind]

/-- What is found by evaluation of a result that may be missing. -/
theorem exists_of_any {α : Type} {x : Except Error α} {p : α → Bool}
    (checked : x.toOption.any p = true) : ∃ a, x = .ok a ∧ p a = true := by
  cases x with
  | error e => cases checked
  | ok a => exact ⟨a, rfl, checked⟩

/-- What each step keeps is kept to the end, if none of them fails. -/
theorem foldlM_keep {α β : Type} {f : β → α → Except Error β} {holds : β → Prop}
    (step : ∀ b a b', holds b → f b a = .ok b' → holds b') {list : List α} {b last : β}
    (start : holds b) (folded : list.foldlM f b = .ok last) : holds last := by
  induction list generalizing b with
  | nil => exact Except.ok.inj folded ▸ start
  | cons a rest ih =>
    rw [List.foldlM_cons] at folded
    obtain ⟨b', first, others⟩ := bind_eq_ok.mp folded
    exact ih (step b a b' start first) others

theorem getElem?_mapM {α β : Type} {f : α → Except Error β} {list : List α} {found : List β}
    (done : list.mapM f = .ok found) (i : Nat) : list[i]?.map f = found[i]?.map .ok := by
  induction list generalizing found i with
  | nil =>
    cases Except.ok.inj done
    rfl
  | cons a rest ih =>
    rw [List.mapM_cons] at done
    obtain ⟨b, first, done⟩ := bind_eq_ok.mp done
    obtain ⟨others, later, done⟩ := bind_eq_ok.mp done
    cases Except.ok.inj done
    cases i with
    | zero => exact congrArg some first
    | succ i => exact ih later i

theorem exists_of_mem_mapM {α β : Type} {f : α → Except Error β} {list : List α} {found : List β}
    (done : list.mapM f = .ok found) : ∀ b ∈ found, ∃ a ∈ list, f a = .ok b := by
  intro b mem
  obtain ⟨i, there⟩ := List.mem_iff_getElem?.mp mem
  have same := getElem?_mapM done i
  rw [there] at same
  obtain ⟨a, isThere, made⟩ := Option.map_eq_some_iff.mp same
  exact ⟨a, List.mem_of_getElem? isThere, made⟩

theorem exists_mapM {α β : Type} {f : α → Except Error β} {list : List α}
    (each : ∀ a ∈ list, ∃ b, f a = .ok b) : ∃ found, list.mapM f = .ok found := by
  induction list with
  | nil => exact ⟨[], rfl⟩
  | cons a rest ih =>
    obtain ⟨⟨b, first⟩, others⟩ := List.forall_mem_cons.mp each
    obtain ⟨found, later⟩ := ih others
    rw [List.mapM_cons]
    exact ⟨b :: found, bind_eq_ok.mpr ⟨b, first, bind_eq_ok.mpr ⟨found, later, rfl⟩⟩⟩

theorem mem_of_mapM {α β : Type} {f : α → Except Error β} {list : List α} {found : List β}
    (done : list.mapM f = .ok found) : ∀ a ∈ list, ∃ b ∈ found, f a = .ok b := by
  intro a mem
  obtain ⟨i, there⟩ := List.mem_iff_getElem?.mp mem
  have same := getElem?_mapM done i
  rw [there] at same
  obtain ⟨b, isThere, made⟩ := Option.map_eq_some_iff.mp same.symm
  exact ⟨b, List.mem_of_getElem? isThere, made.symm⟩

namespace Conducting

variable {α β : Type}

def result (m : Conducting α) (c : Conductor) : Except Error α × Conductor := m.run c

def after (m : Conducting α) (c : Conductor) : Conductor := (result m c).2

theorem after_eq {m : Conducting α} {c d : Conductor} {answer : Except Error α}
    (found : result m c = (answer, d)) : after m c = d := by
  rw [after, found]

/-! ### The parts of a computation -/

@[simp]
theorem result_pure (a : α) (c : Conductor) : result (pure a) c = (.ok a, c) := rfl

@[simp]
theorem result_throw (e : Error) (c : Conductor) :
    result (throw e : Conducting α) c = (.error e, c) := rfl

theorem result_bind (m : Conducting α) (f : α → Conducting β) (c : Conductor) :
    result (m >>= f) c =
      match result m c with
      | (.ok a, d) => result (f a) d
      | (.error e, d) => (.error e, d) := by
  change (ExceptT.bind m f).run c = _
  simp only [ExceptT.bind, ExceptT.run, ExceptT.mk, result, bind, StateT.bind]
  generalize (m : Conductor → Except Error α × Conductor) c = answer
  rcases answer with ⟨_ | a, d⟩ <;> rfl

theorem result_bind_of_ok {m : Conducting α} {f : α → Conducting β} {c d : Conductor} {a : α}
    (first : result m c = (.ok a, d)) : result (m >>= f) c = result (f a) d := by
  rw [result_bind, first]

theorem result_bind_of_error {m : Conducting α} {f : α → Conducting β} {c d : Conductor} {e : Error}
    (first : result m c = (.error e, d)) : result (m >>= f) c = (.error e, d) := by
  rw [result_bind, first]

theorem result_bind_eq_ok {m : Conducting α} {f : α → Conducting β} {c d : Conductor} {b : β} :
    result (m >>= f) c = (.ok b, d) ↔
      ∃ a middle, result m c = (.ok a, middle) ∧ result (f a) middle = (.ok b, d) := by
  cases first : result m c with
  | mk answer middle =>
    cases answer with
    | error e => simp [result_bind_of_error first]
    | ok a =>
      rw [result_bind_of_ok first]
      constructor
      · intro second
        exact ⟨a, middle, rfl, second⟩
      · rintro ⟨_, _, same, second⟩
        cases same
        exact second

@[simp]
theorem result_get (c : Conductor) : result (get : Conducting Conductor) c = (.ok c, c) := rfl

@[simp]
theorem result_modify (f : Conductor → Conductor) (c : Conductor) :
    result (modify f : Conducting PUnit) c = (.ok (), f c) := rfl

@[simp]
theorem result_ofExcept (x : Except Error α) (c : Conductor) :
    result (Conductor.ofExcept x) c = (x, c) := by
  cases x <;> rfl

@[simp]
theorem result_getState (c : Conductor) : result Conductor.getState c = (.ok c.state, c) := rfl

@[simp]
theorem result_modifyState (f : State → State) (c : Conductor) :
    result (Conductor.modifyState f) c = (.ok (), { c with state := f c.state }) := rfl

theorem result_bind_ofExcept_eq_ok {x : Except Error α} {f : α → Conducting β}
    {c d : Conductor} {b : β} :
    result (Conductor.ofExcept x >>= f) c = (.ok b, d) ↔ ∃ a, x = .ok a ∧
      result (f a) c = (.ok b, d) := by
  cases x with
  | error e => simp [Conductor.ofExcept]
  | ok a => simp [Conductor.ofExcept]

theorem result_tryCatch (m : Conducting α) (handle : Error → Conducting α) (c : Conductor) :
    result (tryCatch m handle) c =
      match result m c with
      | (.ok a, d) => (.ok a, d)
      | (.error e, d) => result (handle e) d := by
  change (ExceptT.tryCatch m handle).run c = _
  simp only [ExceptT.tryCatch, ExceptT.run, ExceptT.mk, result, bind, StateT.bind]
  generalize (m : Conductor → Except Error α × Conductor) c = answer
  rcases answer with ⟨_ | a, d⟩ <;> rfl

/-! ### What a computation keeps to -/

/-- From a conductor, a computation keeps to a relation, and its answer, if it gives one, is as
expected. -/
def Runs (R : Conductor → Conductor → Prop) (m : Conducting α) (c : Conductor)
    (expected : α → Conductor → Prop) : Prop :=
  R c (after m c) ∧ ∀ a d, result m c = (.ok a, d) → expected a d

namespace Runs

variable {R : Conductor → Conductor → Prop} {m : Conducting α} {c d : Conductor}
  {expected weaker : α → Conductor → Prop}

theorem kept (runs : Runs R m c expected) : R c (after m c) := runs.1

theorem answer {a : α} (runs : Runs R m c expected) (found : result m c = (.ok a, d)) :
    R c d ∧ expected a d :=
  ⟨after_eq found ▸ runs.1, runs.2 a d found⟩

theorem weaken (runs : Runs R m c expected) (implied : ∀ a d, R c d → expected a d → weaker a d) :
    Runs R m c weaker :=
  ⟨runs.1, fun a d found => implied a d (runs.answer found).1 (runs.answer found).2⟩

theorem of_result {a : α} (found : result m c = (.ok a, d)) (kept : R c d) (holds : expected a d) :
    Runs R m c expected := by
  refine ⟨after_eq found ▸ kept, fun a' d' found' => ?_⟩
  rw [found] at found'
  cases found'
  exact holds

theorem of_error {e : Error} (found : result m c = (.error e, d)) (kept : R c d) :
    Runs R m c expected := by
  refine ⟨after_eq found ▸ kept, fun a' d' found' => ?_⟩
  rw [found] at found'
  cases found'

theorem of_modify (f : Conductor → Conductor) {expected : PUnit → Conductor → Prop}
    (kept : R c (f c)) (holds : expected () (f c)) : Runs R (modify f) c expected :=
  of_result (result_modify f c) kept holds

theorem of_modifyState (f : State → State) {expected : Unit → Conductor → Prop}
    (kept : R c { c with state := f c.state }) (holds : expected () { c with state := f c.state }) :
    Runs R (Conductor.modifyState f) c expected :=
  of_result (result_modifyState f c) kept holds

variable [Std.Refl R]

theorem pure {a : α} (holds : expected a c) : Runs R (pure a) c expected :=
  of_result (result_pure a c) (Std.Refl.refl c) holds

theorem throw (e : Error) : Runs R (throw e) c expected :=
  of_error (result_throw e c) (Std.Refl.refl c)

theorem ofExcept (x : Except Error α) (holds : ∀ a, x = .ok a → expected a c) :
    Runs R (Conductor.ofExcept x) c expected := by
  cases x with
  | error e => exact of_error (result_ofExcept _ c) (Std.Refl.refl c)
  | ok a => exact of_result (result_ofExcept _ c) (Std.Refl.refl c) (holds a rfl)

end Runs

namespace Runs

variable {R : Conductor → Conductor → Prop} [IsTrans Conductor R] {m : Conducting α} {c : Conductor}

theorem bind {f : α → Conducting β} {middle : α → Conductor → Prop}
    {expected : β → Conductor → Prop} (first : Runs R m c middle)
    (second : ∀ a d, R c d → middle a d → Runs R (f a) d expected) :
    Runs R (m >>= f) c expected := by
  cases found : result m c with
  | mk answer d =>
    cases answer with
    | error e => exact of_error (result_bind_of_error found) (after_eq found ▸ first.1)
    | ok a =>
      have ⟨kept, holds⟩ := first.answer found
      have rest := second a d kept holds
      refine ⟨?_, fun b d' found' => ?_⟩
      · rw [after, result_bind_of_ok found]
        exact Trans.trans kept rest.1
      · rw [result_bind_of_ok found] at found'
        exact rest.2 b d' found'

theorem tryCatch {handle : Error → Conducting α} {expected : α → Conductor → Prop}
    (first : Runs R m c expected) (second : ∀ e d, R c d → Runs R (handle e) d expected) :
    Runs R (tryCatch m handle) c expected := by
  cases found : result m c with
  | mk answer d =>
    have caught := result_tryCatch m handle c
    rw [found] at caught
    have kept : R c d := after_eq found ▸ first.1
    cases answer with
    | error e =>
      have rest := second e d kept
      refine ⟨?_, fun a d' found' => ?_⟩
      · rw [after, caught]
        exact Trans.trans kept rest.1
      · rw [caught] at found'
        exact rest.2 a d' found'
    | ok a => exact of_result caught kept (first.2 a d found)

/-! A part whose answer is known is passed over. -/

theorem bind_of_result {f : α → Conducting β} {expected : β → Conductor → Prop} {a : α}
    {d : Conductor} (found : result m c = (.ok a, d)) (kept : R c d)
    (rest : Runs R (f a) d expected) : Runs R (m >>= f) c expected := by
  refine ⟨?_, fun b d' found' => ?_⟩
  · rw [after, result_bind_of_ok found]
    exact Trans.trans kept rest.1
  · rw [result_bind_of_ok found] at found'
    exact rest.2 b d' found'

theorem bind_modify {f : PUnit → Conducting β} {expected : β → Conductor → Prop}
    (change : Conductor → Conductor) (kept : R c (change c))
    (rest : Runs R (f ()) (change c) expected) : Runs R (modify change >>= f) c expected :=
  bind_of_result (result_modify change c) kept rest

theorem bind_modifyState {f : Unit → Conducting β} {expected : β → Conductor → Prop}
    (change : State → State) (kept : R c { c with state := change c.state })
    (rest : Runs R (f ()) { c with state := change c.state } expected) :
    Runs R (Conductor.modifyState change >>= f) c expected :=
  bind_of_result (result_modifyState change c) kept rest

end Runs

namespace Runs

variable {R : Conductor → Conductor → Prop} {c : Conductor} {expected : β → Conductor → Prop}

theorem bind_get {f : Conductor → Conducting β} (rest : Runs R (f c) c expected) :
    Runs R (MonadState.get >>= f) c expected := rest

theorem bind_getState {f : State → Conducting β} (rest : Runs R (f c.state) c expected) :
    Runs R (Conductor.getState >>= f) c expected := rest

theorem bind_ofExcept [Std.Refl R] {x : Except Error α} {f : α → Conducting β}
    (rest : ∀ a, x = .ok a → Runs R (f a) c expected) :
    Runs R (Conductor.ofExcept x >>= f) c expected := by
  cases x with
  | error e => exact Runs.throw e
  | ok a => exact rest a rfl

end Runs

/-! ### Loops

Each round of a loop starts from a conductor to which the relation has led. What is expected of the
rounds is expected of them one after the other. -/

def Chained {σ : Type} (step : α → σ → σ → Prop) : List α → σ → σ → Prop
  | [], s, t => t = s
  | a :: rest, s, t => ∃ middle, step a s middle ∧ Chained step rest middle t

def ChainedAnswers {σ : Type} (step : α → β → σ → σ → Prop) : List α → List β → σ → σ → Prop
  | [], [], s, t => t = s
  | a :: rest, b :: others, s, t =>
    ∃ middle, step a b s middle ∧ ChainedAnswers step rest others middle t
  | _, _, _, _ => False

section Views

variable {σ τ : Type} (keeps : σ → Prop) (view : σ → τ)

theorem Chained.view_eq {list : List α} {s t : σ}
    (chained : Chained (fun _ s t => view t = view s) list s t) : view t = view s := by
  induction list generalizing s with
  | nil => exact congrArg view chained
  | cons a rest ih =>
    obtain ⟨middle, same, others⟩ := chained
    exact (ih others).trans same

theorem Chained.keep (holds : σ → Prop) {step : α → σ → σ → Prop} {list : List α} {s t : σ}
    (each : ∀ a s t, holds s → step a s t → holds t) (chained : Chained step list s t)
    (start : holds s) : holds t := by
  induction list generalizing s with
  | nil => exact chained ▸ start
  | cons a rest ih =>
    obtain ⟨middle, stepped, others⟩ := chained
    exact ih others (each a s middle start stepped)

theorem Chained.concat {step : α → σ → σ → Prop} {list : List α} {a : α} {s middle t : σ}
    (chained : Chained step list s middle) (last : step a middle t) :
    Chained step (list ++ [a]) s t := by
  induction list generalizing s with
  | nil => exact ⟨t, (chained : middle = s) ▸ last, rfl⟩
  | cons b rest ih =>
    obtain ⟨next, first, others⟩ := chained
    exact ⟨next, first, ih others⟩

theorem Chained.map {step : α → σ → σ → Prop} {seen : α → τ → τ → Prop}
    (each : ∀ a s t, keeps s → step a s t → keeps t ∧ seen a (view s) (view t))
    {list : List α} {s t : σ} (chained : Chained step list s t) (start : keeps s) :
    Chained seen list (view s) (view t) := by
  induction list generalizing s with
  | nil => exact congrArg view chained
  | cons a rest ih =>
    obtain ⟨middle, stepped, others⟩ := chained
    obtain ⟨kept, here⟩ := each a s middle start stepped
    exact ⟨view middle, here, ih others kept⟩

theorem ChainedAnswers.map {step : α → β → σ → σ → Prop} {seen : α → β → τ → τ → Prop}
    (each : ∀ a b s t, keeps s → step a b s t → keeps t ∧ seen a b (view s) (view t))
    {list : List α} {answers : List β} {s t : σ} (chained : ChainedAnswers step list answers s t)
    (start : keeps s) : ChainedAnswers seen list answers (view s) (view t) := by
  induction list generalizing answers s with
  | nil =>
    cases answers with
    | nil => exact congrArg view chained
    | cons => exact chained
  | cons a rest ih =>
    cases answers with
    | nil => exact chained
    | cons b others =>
      obtain ⟨middle, stepped, later⟩ := chained
      obtain ⟨kept, here⟩ := each a b s middle start stepped
      exact ⟨view middle, here, ih later kept⟩

end Views

section Loops

variable {R : Conductor → Conductor → Prop} [Std.Refl R] [IsTrans Conductor R] {c : Conductor}

theorem Runs.forM_chained {f : α → Conducting PUnit} {list : List α}
    {step : α → Conductor → Conductor → Prop}
    (round : ∀ a ∈ list, ∀ d, R c d → Runs R (f a) d fun _ e => step a d e) :
    Runs R (list.forM f) c fun _ d => Chained step list c d := by
  induction list generalizing c with
  | nil => exact Runs.pure rfl
  | cons a rest ih =>
    have first := round a (List.mem_cons_self ..) c (Std.Refl.refl c)
    refine Runs.bind first fun _ d kept stepped => (ih ?_).weaken ?_
    · intro b mem e later
      exact round b (List.mem_cons_of_mem a mem) e (Trans.trans kept later)
    · exact fun _ e _ chained => ⟨d, stepped, chained⟩

theorem Runs.forM_keep {γ : Type} (view : Conductor → γ) {f : α → Conducting PUnit} {list : List α}
    (round : ∀ a ∈ list, ∀ d, R c d → Runs R (f a) d fun _ e => view e = view d) :
    Runs R (list.forM f) c fun _ d => view d = view c :=
  (forM_chained round).weaken fun _ _ _ chained => chained.view_eq view

theorem Runs.forM {f : α → Conducting PUnit} {list : List α}
    (round : ∀ a ∈ list, ∀ d, R c d → Runs R (f a) d fun _ _ => True) :
    Runs R (list.forM f) c fun _ _ => True := by
  have chained : Runs R (list.forM f) c fun _ d => Chained (fun _ _ _ => True) list c d :=
    forM_chained round
  exact chained.weaken fun _ _ _ _ => trivial

theorem Runs.mapM_chained {f : α → Conducting β} {list : List α}
    {step : α → β → Conductor → Conductor → Prop}
    (round : ∀ a ∈ list, ∀ d, R c d → Runs R (f a) d fun b e => step a b d e) :
    Runs R (list.mapM f) c fun bs d => ChainedAnswers step list bs c d := by
  induction list generalizing c with
  | nil =>
    rw [List.mapM_nil]
    exact Runs.pure rfl
  | cons a rest ih =>
    rw [List.mapM_cons]
    have first := round a (List.mem_cons_self ..) c (Std.Refl.refl c)
    refine Runs.bind first fun b d kept stepped => ?_
    refine Runs.bind (ih ?_) fun bs e _ chained => Runs.pure ⟨d, stepped, chained⟩
    intro b mem e later
    exact round b (List.mem_cons_of_mem a mem) e (Trans.trans kept later)

end Loops

/-! ### How a computation ends

Where more is to be said about failures than that the relation is kept, what holds after an answer
and what holds after a failure are stated apart. -/

/-- From a conductor, a computation ends well if it gives an answer, and ill if it fails. -/
structure Ends (m : Conducting α) (c : Conductor) (well : α → Conductor → Prop)
    (ill : Conductor → Prop) : Prop where
  answered : ∀ a d, result m c = (.ok a, d) → well a d
  failed : ∀ e d, result m c = (.error e, d) → ill d

namespace Ends

variable {m : Conducting α} {c d : Conductor} {well well' : α → Conductor → Prop}
  {ill ill' : Conductor → Prop}

theorem of_result {a : α} (found : result m c = (.ok a, d)) (holds : well a d) :
    Ends m c well ill where
  answered a' d' found' := by
    cases found.symm.trans found'
    exact holds
  failed e d' found' := by cases found.symm.trans found'

theorem of_error {e : Error} (found : result m c = (.error e, d)) (holds : ill d) :
    Ends m c well ill where
  answered a' d' found' := by cases found.symm.trans found'
  failed e' d' found' := by
    cases found.symm.trans found'
    exact holds

/-- What holds in either case holds of the conductor that is left behind. -/
theorem exists_answer (ends : Ends m c well fun _ => False) :
    ∃ a d, result m c = (.ok a, d) ∧ well a d := by
  cases found : result m c with
  | mk answer d =>
    cases answer with
    | error e => exact (ends.failed e d found).elim
    | ok a => exact ⟨a, d, rfl, ends.answered a d found⟩

theorem after {holds : Conductor → Prop} (ends : Ends m c well ill)
    (ifWell : ∀ a d, well a d → holds d) (ifIll : ∀ d, ill d → holds d) : holds (after m c) := by
  cases found : result m c with
  | mk answer d =>
    rw [after_eq found]
    cases answer with
    | error e => exact ifIll d (ends.failed e d found)
    | ok a => exact ifWell a d (ends.answered a d found)

theorem of_after (holds : Conductor → Prop) (kept : holds (Conducting.after m c)) :
    Ends m c (fun _ d => holds d) holds :=
  ⟨fun _ _ found => after_eq found ▸ kept, fun _ _ found => after_eq found ▸ kept⟩

theorem weaken (ends : Ends m c well ill) (ifWell : ∀ a d, well a d → well' a d)
    (ifIll : ∀ d, ill d → ill' d) : Ends m c well' ill' :=
  ⟨fun a d found => ifWell a d (ends.answered a d found),
    fun e d found => ifIll d (ends.failed e d found)⟩

theorem orIll (ends : Ends m c well ill) (ifIll : ∀ d, ill d → ill' d) : Ends m c well ill' :=
  ends.weaken (fun _ _ holds => holds) ifIll

theorem of_runs {R : Conductor → Conductor → Prop} (runs : Runs R m c well) :
    Ends m c (fun a d => R c d ∧ well a d) (R c) :=
  ⟨fun _ _ found => runs.answer found, fun _ _ found => after_eq found ▸ runs.kept⟩

theorem and (ends : Ends m c well ill) (other : Ends m c well' ill') :
    Ends m c (fun a d => well a d ∧ well' a d) (fun d => ill d ∧ ill' d) :=
  ⟨fun a d found => ⟨ends.answered a d found, other.answered a d found⟩,
    fun e d found => ⟨ends.failed e d found, other.failed e d found⟩⟩

theorem of_results (m : Conducting α) (c : Conductor) :
    Ends m c (fun a d => result m c = (.ok a, d)) (fun d => ∃ e, result m c = (.error e, d)) where
  answered _ _ found := found
  failed e _ found := ⟨e, found⟩

theorem pure {a : α} (holds : well a c) : Ends (pure a) c well ill :=
  of_result (result_pure a c) holds

theorem throw (e : Error) (holds : ill c) : Ends (throw e) c well ill :=
  of_error (result_throw e c) holds

theorem ofExcept (x : Except Error α) (ifWell : ∀ a, x = .ok a → well a c)
    (ifIll : ∀ e, x = .error e → ill c) : Ends (Conductor.ofExcept x) c well ill := by
  cases x with
  | error e => exact of_error (result_ofExcept _ c) (ifIll e rfl)
  | ok a => exact of_result (result_ofExcept _ c) (ifWell a rfl)

theorem of_modifyState (f : State → State) {well : Unit → Conductor → Prop}
    (holds : well () { c with state := f c.state }) : Ends (Conductor.modifyState f) c well ill :=
  of_result (result_modifyState f c) holds

theorem bind {f : α → Conducting β} {expected : β → Conductor → Prop} (first : Ends m c well ill)
    (second : ∀ a d, well a d → Ends (f a) d expected ill) : Ends (m >>= f) c expected ill := by
  cases found : result m c with
  | mk answer d =>
    cases answer with
    | error e => exact of_error (result_bind_of_error found) (first.failed e d found)
    | ok a =>
      have rest := second a d (first.answered a d found)
      constructor
      · intro b d' found'
        rw [result_bind_of_ok found] at found'
        exact rest.answered b d' found'
      · intro e d' found'
        rw [result_bind_of_ok found] at found'
        exact rest.failed e d' found'

theorem bind_of_result {f : α → Conducting β} {expected : β → Conductor → Prop} {a : α}
    (found : result m c = (.ok a, d)) (rest : Ends (f a) d expected ill) :
    Ends (m >>= f) c expected ill :=
  have first : Ends m c (fun a' d' => a' = a ∧ d' = d) ill := of_result found ⟨rfl, rfl⟩
  bind first fun _ _ same => by
    obtain ⟨rfl, rfl⟩ := same
    exact rest

theorem tryCatch {handle : Error → Conducting α} (first : Ends m c well ill)
    (second : ∀ e d, ill d → Ends (handle e) d well ill') :
    Ends (tryCatch m handle) c well ill' := by
  cases found : result m c with
  | mk answer d =>
    have caught := result_tryCatch m handle c
    rw [found] at caught
    cases answer with
    | error e =>
      have rest := second e d (first.failed e d found)
      constructor
      · intro a d' found'
        rw [caught] at found'
        exact rest.answered a d' found'
      · intro e' d' found'
        rw [caught] at found'
        exact rest.failed e' d' found'
    | ok a => exact of_result caught (first.answered a d found)

end Ends

namespace Ends

variable {c : Conductor} {expected : β → Conductor → Prop} {ill : Conductor → Prop}

theorem bind_get {f : Conductor → Conducting β} (rest : Ends (f c) c expected ill) :
    Ends (MonadState.get >>= f) c expected ill := ⟨rest.answered, rest.failed⟩

theorem bind_getState {f : State → Conducting β} (rest : Ends (f c.state) c expected ill) :
    Ends (Conductor.getState >>= f) c expected ill := ⟨rest.answered, rest.failed⟩

theorem bind_modifyState {f : Unit → Conducting β} (change : State → State)
    (rest : Ends (f ()) { c with state := change c.state } expected ill) :
    Ends (Conductor.modifyState change >>= f) c expected ill := ⟨rest.answered, rest.failed⟩

theorem bind_ofExcept {x : Except Error α} {f : α → Conducting β}
    (ifIll : ∀ e, x = .error e → ill c) (rest : ∀ a, x = .ok a → Ends (f a) c expected ill) :
    Ends (Conductor.ofExcept x >>= f) c expected ill := by
  cases x with
  | error e => exact Ends.throw e (ifIll e rfl)
  | ok a => exact rest a rfl

/-- What is left to do is part of what each round keeps. -/
theorem forM {f : α → Conducting PUnit} {list : List α} (keeps : List α → Conductor → Prop)
    (start : keeps list c) (round : ∀ a rest d, keeps (a :: rest) d →
      Ends (f a) d (fun _ e => keeps rest e) ill) :
    Ends (list.forM f) c (fun _ d => keeps [] d) ill := by
  induction list generalizing c with
  | nil => exact Ends.pure start
  | cons a rest ih => exact Ends.bind (round a rest c start) fun _ d kept => ih kept

end Ends

end Conducting

end Orchestration
