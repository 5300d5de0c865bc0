import Orchestration.Error

/-!
Work that makes more work, done first come, first served.

The items that wait are done in order, and what they make waits for the next round. This is the
order of a queue.
-/

namespace Orchestration.Worklist

variable {σ α : Type}

/-- What can be done with one item: a new state and the items that it makes. -/
abbrev Visit (σ α : Type) := σ → α → Except Error (σ × List α)

def endless : Error := .broken .recursion "the work does not end"

def round (visit : Visit σ α) (state : σ) (waiting : List α) : Except Error (σ × List α) :=
  waiting.foldlM (fun (state, next) item => do
    let (state, more) ← visit state item
    .ok (state, next ++ more)) (state, [])

def run (visit : Visit σ α) : Nat → σ → List α → Except Error σ
  | _, state, [] => .ok state
  | 0, _, _ :: _ => .error endless
  | fuel + 1, state, waiting => do
    let (state, next) ← round visit state waiting
    run visit fuel state next

end Orchestration.Worklist
