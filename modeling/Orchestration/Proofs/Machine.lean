import Orchestration.Machine.Task
import Orchestration.Machine.Workflow

/-!
What the machines of tasks and of workflows can do.

A machine leads nowhere but where one of its rows says so. What holds of all rows is found by
looking at them.
-/

namespace Orchestration.Machine

variable {old new : Status} {signal : Signal}

theorem Row.mem_of_next? {row : Row} {new : Status} (led : row.next? signal = some new) :
    (signal, new) ∈ row := by
  obtain ⟨answer, found, rfl⟩ := Option.map_eq_some_iff.mp led
  have same : answer.1 = signal := by simpa using List.find?_some found
  exact same ▸ List.mem_of_find?_eq_some found

theorem Task.mem_row_of_step (led : step old signal = .ok (some new)) :
    ∃ row, row? old.orUnset = some row ∧ (signal, new) ∈ row := by
  simp only [step] at led
  split at led
  · cases led
  · split at led
    · cases led
    case h_2 row found => exact ⟨row, found, Row.mem_of_next? (Except.ok.inj led)⟩

theorem Workflow.mem_row_of_step (led : step old signal = .ok (some new)) :
    ∃ row, row? old = some row ∧ (signal, new) ∈ row := by
  simp only [step] at led
  split at led
  · cases led
  case h_2 row found => exact ⟨row, found, Row.mem_of_next? (Except.ok.inj led)⟩

theorem Task.isKnown_of_step (led : step old signal = .ok (some new)) :
    new.isKnown = true := by
  obtain ⟨row, found, answers⟩ := mem_row_of_step led
  have known : ∀ answer ∈ row, answer.2.isKnown = true := by
    generalize old.orUnset = current at found
    cases current <;> cases found <;> decide
  exact known _ answers

theorem Workflow.isKnown_of_step (led : step old signal = .ok (some new)) :
    new.isKnown = true := by
  obtain ⟨row, found, answers⟩ := mem_row_of_step led
  have known : ∀ answer ∈ row, answer.2.isKnown = true := by
    cases old <;> cases found <;> decide
  exact known _ answers

def isStopAnswer : Signal × Status → Bool
  | (.about .workflow status _, new) =>
    status.isStop && [Status.pausing, .paused, .canceling, .canceled].contains new
  | _ => true

/-- Of what a host asks of a workflow, tasks only follow pauses and cancelations. -/
theorem Task.stop_of_step {old new status : Status} {scope : Scope}
    (led : step old (.about .workflow status scope) = .ok (some new)) :
    status.isStop = true ∧ new ∈ [Status.pausing, .paused, .canceling, .canceled] := by
  obtain ⟨row, found, answers⟩ := mem_row_of_step led
  have stops : ∀ answer ∈ row, isStopAnswer answer = true := by
    generalize old.orUnset = current at found
    cases current <;> cases found <;> decide
  simpa [isStopAnswer] using stops _ answers

def isPlainAnswer : Signal × Status → Bool
  | (.about .workflow status .plain, new) => new == status
  | _ => true

/-- What a host asks for, and nothing else, is what a workflow comes to, unless it depends on the
tasks. -/
theorem Workflow.eq_of_plain_step {old new status : Status}
    (led : step old (.about .workflow status .plain) = .ok (some new)) : new = status := by
  obtain ⟨row, found, answers⟩ := mem_row_of_step led
  have plain : ∀ answer ∈ row, isPlainAnswer answer = true := by
    cases old <;> cases found <;> decide
  simpa [isPlainAnswer] using plain _ answers

/-- A task that is told to try again is not completed, unless it has been canceled. -/
theorem Task.eq_canceled_of_retry {answer : Option Status}
    (led : step old (.command .retry) = .ok answer)
    (completed : (answer.getD old).isCompleted = true) : answer.getD old = .canceled := by
  cases old with
  | expired | abandoned | unknown => cases led
  | _ =>
    cases led
    first | rfl | cases completed

theorem Task.isCompleted_of_step {answer : Option Status}
    (led : step old signal = .ok answer) (completed : (answer.getD old).isCompleted = true)
    (changed : answer.getD old ≠ old.orUnset) : old.isCompleted = false := by
  cases answer with
  | none => exact (changed (Status.orUnset_of_isCompleted completed).symm).elim
  | some new =>
    obtain ⟨row, found, answers⟩ := mem_row_of_step led
    have onward : old.isCompleted = true → ∀ answer ∈ row, answer.2.isCompleted = false := by
      intro ended
      rw [Status.orUnset_of_isCompleted ended] at found
      cases old <;> cases found <;> first | decide | cases ended
    cases ended : old.isCompleted with
    | false => rfl
    | true => exact completed.symm.trans (onward ended _ answers)

/-! ### Workflows that have been started -/

namespace Workflow

def begun : List Status :=
  [.running, .pausing, .paused, .resuming, .canceling, .canceled, .succeeded, .failed]

/-- What a report of a task may make of a workflow that has been started. It goes on only if there
is something to go on with, and waits only for what is active. -/
structure Fair (old status : Status) (around : Surroundings) (new : Status) : Prop where
  started : new ∈ begun
  onward : new = .running ∨ new = .resuming → around.active = true ∨ status.isActive = true ∨
    status = .retrying ∨
    status ∈ [Status.paused, .pending] ∨ (around.outlook = .incomplete ∧ status ≠ .canceled) ∨
    around.outlook = .paused
  stopping : new = .pausing ∨ new = .canceling → around.active = true ∨ status.isActive = true
  failed : old = .failed → new = .failed

instance (old status : Status) (around : Surroundings) (new : Status) :
    Decidable (Fair old status around new) :=
  decidable_of_iff (_ ∧ _ ∧ _ ∧ _)
    ⟨fun ⟨started, onward, stopping, failed⟩ => ⟨started, onward, stopping, failed⟩,
     fun ⟨started, onward, stopping, failed⟩ => ⟨started, onward, stopping, failed⟩⟩

def answersFairly (old status : Status) (around : Surroundings) : Bool :=
  let signal := taskSignal (.task none none status) around
  !Signal.taskSignals.contains signal ||
    match step old signal with
    | .ok answer => decide (Fair old status around (answer.getD old))
    | .error _ => false

theorem answersFairly_of_begun : ∀ old ∈ begun, ∀ status ∈ Status.all, ∀ active follows,
    ∀ outlook ∈ [Outlook.incomplete, .completed, .paused, .canceled],
    answersFairly old status ⟨active, follows, outlook⟩ = true := by
  decide +kernel

def speaksOfKnown : Signal → Bool
  | .about _ status _ => status.isKnown
  | _ => true

theorem isKnown_of_taskSignal {task : Option String} {route : Option Nat} {status : Status}
    {around : Surroundings}
    (known : taskSignal (.task task route status) around ∈ Signal.taskSignals) :
    status.isKnown = true := by
  have speaks : ∀ signal ∈ Signal.taskSignals, speaksOfKnown signal = true := by decide
  cases status with
  | missing | unknown => exact speaks _ known
  | _ => rfl

theorem fair_of_step {task : Option String} {route : Option Nat} {old status : Status}
    {around : Surroundings} {answer : Option Status} (started : old ∈ begun)
    (regular : around.outlook ≠ .failed)
    (known : taskSignal (.task task route status) around ∈ Signal.taskSignals)
    (led : step old (taskSignal (.task task route status) around) = .ok answer) :
    Fair old status around (answer.getD old) := by
  have inAll : status ∈ Status.all := by simpa [Status.isKnown] using isKnown_of_taskSignal known
  have outlook : around.outlook ∈ [Outlook.incomplete, .completed, .paused, .canceled] := by
    revert regular
    generalize around.outlook = outlook
    cases outlook <;> decide
  have fair :=
    answersFairly_of_begun old started status inAll around.active around.follows
      around.outlook outlook
  have same : taskSignal (.task none none status) around = taskSignal
      (.task task route status) around := rfl
  simpa [answersFairly, same, known, led] using fair

/-! ### Workflows that end -/

/-- The statuses that are left to a workflow that has ended or is to be canceled. Nothing is said of
others. -/
def prospects? : Status → Option (List Status)
  | .failed => some [.failed]
  | .canceled => some [.canceled]
  | .succeeded => some [.succeeded, .failed]
  | .canceling => some [.canceling, .canceled, .failed]
  | _ => none

def MayCome (old new : Status) : Prop := ∀ left ∈ prospects? old, new ∈ left

instance (old new : Status) : Decidable (MayCome old new) :=
  inferInstanceAs (Decidable (∀ left ∈ prospects? old, new ∈ left))

theorem mayCome_self (status : Status) : MayCome status status := by
  intro left among
  cases status <;> cases among <;> decide

theorem MayCome.trans {old new last : Status} (first : MayCome old new)
    (second : MayCome new last) : MayCome old last := by
  intro left among
  have within : ∀ status ∈ left, ∃ more ∈ prospects? status, more ⊆ left := by
    cases old <;> cases among <;> decide
  obtain ⟨more, amongMore, subset⟩ := within new (first left among)
  exact subset (second more amongMore)

/-- Where a machine leads a workflow, and that it may fail as soon as it is completed, is left to
it. -/
theorem mayCome_of_step (led : step old signal = .ok (some new)) :
    MayCome old new ∧ (new.isCompleted = true → MayCome old .failed) := by
  obtain ⟨row, found, answers⟩ := mem_row_of_step led
  have all : ∀ answer ∈ row, MayCome old answer.2 ∧
      (answer.2.isCompleted = true → MayCome old .failed) := by
    cases old <;> cases found <;> decide
  exact all _ answers

theorem eq_failed_of_step (completed : old.isCompleted = true)
    (led : step old signal = .ok (some new)) : new = .failed := by
  obtain ⟨row, found, answers⟩ := mem_row_of_step led
  have fails : ∀ answer ∈ row, answer.2 = .failed := by
    cases old <;> cases completed <;> cases found <;> decide
  exact fails _ answers

/-! ### Workflows that come to rest -/

def scopeOf : Signal → Scope
  | .about _ _ scope | .remediated scope => scope
  | .command _ | .unknown _ => .plain

def isDormant : Scope → Bool
  | .workflow .dormant | .progress .dormant _ => true
  | _ => false

theorem isDormant_workflow (active : Bool) : isDormant (.workflow (.ofBool active)) = !active := by
  cases active <;> rfl

theorem isDormant_progress (active : Bool) (outlook : Outlook) :
    isDormant (.progress (.ofBool active) outlook) = !active := by
  cases active <;> rfl

/-- A workflow is only paused or canceled when no task is active. It only succeeds when nothing is
left, or when its host says so. -/
theorem atRest_of_step (led : step old signal = .ok (some new)) :
    (new = .paused ∨ new = .canceled → isDormant (scopeOf signal) = true) ∧
      (new = .succeeded → scopeOf signal = .settled ∨
        scopeOf signal = .progress .dormant .completed ∨
        signal = .about .workflow .succeeded .plain) := by
  obtain ⟨row, found, answers⟩ := mem_row_of_step led
  have all : ∀ answer ∈ row,
      (answer.2 = .paused ∨ answer.2 = .canceled → isDormant (scopeOf answer.1) = true) ∧
        (answer.2 = .succeeded → scopeOf answer.1 = .settled ∨
          scopeOf answer.1 = .progress .dormant .completed ∨
          answer.1 = .about .workflow .succeeded .plain) := by
    cases old <;> cases found <;> decide
  exact all _ answers

/-- The signal of a task says no more of the workflow than what surrounds the task. -/
theorem scopeOf_taskSignal (task : Option String) (route : Option Nat) (status : Status)
    (around : Surroundings) :
    let signal := taskSignal (.task task route status) around
    (scopeOf signal = .plain ∨ scopeOf signal = .workflow (.ofBool around.active) ∨
      scopeOf signal = .progress (.ofBool around.active) around.outlook) ∧
    ∀ status scope, signal ≠ .about .workflow status scope := by
  unfold taskSignal
  generalize told : (if (Event.task task route status).status.isAbended && around.follows then
    Signal.remediated .plain else (Event.task task route status).signal) = signal
  have plain : signal = .remediated .plain ∨ signal = .about .task status .plain := by
    rw [← told]
    split
    · exact .inl rfl
    · exact .inr rfl
  rcases plain with rfl | rfl <;> dsimp only <;> split <;> split <;>
    simp [Signal.within, Signal.withOutlook, scopeOf]

/-- A workflow that follows a task is only paused or canceled when no task is active, and only
succeeds when nothing else is left either. -/
theorem atRest_of_report {task : Option String} {route : Option Nat} {old new status : Status}
    {around : Surroundings}
    (led : step old (taskSignal (.task task route status) around) = .ok (some new)) :
    (new = .paused ∨ new = .canceled → around.active = false) ∧
      (new = .succeeded → around.active = false ∧ around.outlook = .completed) := by
  obtain ⟨stops, succeeds⟩ := atRest_of_step led
  obtain ⟨scope, own⟩ := scopeOf_taskSignal task route status around
  constructor
  · intro stopped
    have dormant := stops stopped
    rcases scope with plain | workflow | progress
    · rw [plain] at dormant
      cases dormant
    · simpa [workflow, isDormant_workflow] using dormant
    · simpa [progress, isDormant_progress] using dormant
  · intro succeeded
    rcases succeeds succeeded with settled | completed | asked
    · rcases scope with plain | workflow | progress <;> simp_all
    · rcases scope with plain | workflow | progress
      · cases plain.symm.trans completed
      · cases workflow.symm.trans completed
      · have dormant : isDormant (.progress (.ofBool around.active) around.outlook) = true := by
          rw [← progress, completed]
          rfl
        rw [isDormant_progress] at dormant
        exact ⟨by simpa using dormant, (Scope.progress.inj (progress.symm.trans completed)).2⟩
    · exact (own _ _ asked).elim

/-- A workflow that follows its host is only paused or canceled when no task is active. It only
succeeds when it is settled, or when that is what is asked for. -/
theorem atRest_of_request {old new status : Status} {active settled : Bool}
    (led : step old (requestSignal (.workflow status) active settled) = .ok (some new)) :
    (new = .paused ∨ new = .canceled → active = false) ∧
      (new = .succeeded → status = .succeeded ∨ settled = true) := by
  obtain ⟨stops, succeeds⟩ := atRest_of_step led
  have scope : requestSignal (.workflow status) active settled = .about .workflow status
      (.workflow (.ofBool active)) ∨
      (requestSignal (.workflow status) active settled = .about .workflow status .settled ∧
        settled = true) ∨
      requestSignal (.workflow status) active settled = .about .workflow status .plain := by
    unfold requestSignal
    split
    · exact .inl rfl
    · split
      case isTrue both => exact .inr (.inl ⟨rfl, (Bool.and_eq_true_iff.mp both).1⟩)
      case isFalse => exact .inr (.inr rfl)
  rcases scope with signal | ⟨signal, isSettled⟩ | signal <;> rw [signal] at stops succeeds
  · refine ⟨fun stopped => ?_, fun succeeded => ?_⟩
    · simpa [scopeOf, isDormant_workflow] using stops stopped
    · simpa [scopeOf] using succeeds succeeded
  · exact ⟨fun stopped => Bool.noConfusion (stops stopped), fun _ => .inr isSettled⟩
  · refine ⟨fun stopped => Bool.noConfusion (stops stopped), fun succeeded => .inl ?_⟩
    simpa [scopeOf] using succeeds succeeded

end Workflow

end Orchestration.Machine
