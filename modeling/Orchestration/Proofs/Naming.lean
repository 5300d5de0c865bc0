import Mathlib.Data.List.Basic
import Orchestration.State.Basic

/-!
Names of tasks on routes and of transitions.

A name ends in a number, and from the last character on the number can be read back: two tasks on
two routes never have the same name, and no two transitions have, as long as their keys are numbers.
-/

namespace Orchestration

namespace Naming

def EndsInMark (chars : List Char) : Prop :=
  ∃ before mark, chars = before ++ [mark] ∧ mark.isDigit = false

theorem takeWhile_digits {digits before : List Char} (areDigits : ∀ c ∈ digits, c.isDigit = true)
    (ends : EndsInMark before) :
    ((before ++ digits).reverse).takeWhile (·.isDigit) = digits.reverse := by
  obtain ⟨start, mark, rfl, notDigit⟩ := ends
  have reversed : ∀ c ∈ digits.reverse, c.isDigit = true := fun c mem =>
    areDigits c (List.mem_reverse.mp mem)
  simp only [List.reverse_append, List.reverse_cons, List.reverse_nil, List.nil_append,
    List.singleton_append]
  rw [List.takeWhile_append_of_pos reversed, List.takeWhile_cons_of_neg (by simp [notDigit]),
    List.append_nil]

/-- Where a number starts can be read off from the end. -/
theorem append_digits_inj {before after first second : List Char}
    (same : before ++ first = after ++ second) (firstDigits : ∀ c ∈ first, c.isDigit = true)
    (secondDigits : ∀ c ∈ second, c.isDigit = true) (firstMark : EndsInMark before)
    (secondMark : EndsInMark after) : before = after ∧ first = second := by
  have numbers : first.reverse = second.reverse := by
    rw [← takeWhile_digits firstDigits firstMark, same, takeWhile_digits secondDigits secondMark]
  have number : first = second := List.reverse_injective numbers
  subst number
  exact ⟨List.append_cancel_right same, rfl⟩

theorem isDigit_of_mem_number {n : Nat} {c : Char} (mem : c ∈ (toString n).toList) :
    c.isDigit = true := by
  rw [show toString n = n.repr from rfl, Nat.toList_repr] at mem
  exact Nat.isDigit_of_mem_toDigits (by decide) (by decide) mem

theorem number_inj {n m : Nat} (same : (toString n).toList = (toString m).toList) : n = m := by
  rw [show toString n = n.repr from rfl, show toString m = m.repr from rfl, Nat.toList_repr,
    Nat.toList_repr] at same
  rw [← Nat.ofDigitChars_ten_toDigits (n := n), same, Nat.ofDigitChars_ten_toDigits]

/-- A name, a mark that ends in no digit, and a number. -/
theorem numbered_inj {name other : String} {n m : Nat} {mark : String}
    (ends : EndsInMark mark.toList)
    (same : name ++ mark ++ toString n = other ++ mark ++ toString m) : name = other ∧ n = m := by
  have marked : ∀ text : String, EndsInMark (text.toList ++ mark.toList) := by
    intro text
    obtain ⟨before, last, split, notDigit⟩ := ends
    exact ⟨text.toList ++ before, last, by rw [split, List.append_assoc], notDigit⟩
  have chars := congrArg String.toList same
  simp only [String.toList_append] at chars
  obtain ⟨names, numbers⟩ := append_digits_inj chars (fun _ => isDigit_of_mem_number)
    (fun _ => isDigit_of_mem_number) (marked name) (marked other)
  exact ⟨String.toList_inj.mp (List.append_cancel_right names), number_inj numbers⟩

end Naming

namespace State

theorem taskKey_inj {task other : String} {route way : Nat}
    (same : taskKey task route = taskKey other way) : task = other ∧ route = way :=
  Naming.numbered_inj ⟨['_', '_'], 'r', rfl, rfl⟩ same

theorem transitionKey_inj {task other : String} {n m : Nat}
    (same : transitionKey task (.int n) = transitionKey other (.int m)) : task = other ∧ n = m :=
  Naming.numbered_inj ⟨['_', '_'], 't', rfl, rfl⟩ same

end State

/-! ### Named things -/

section Named

variable {α : Type} (list : List (String × α)) (name : String) (v : α)

@[simp]
theorem lookup_putNamed_self : (putNamed list name v).lookup name = some v := by
  induction list with
  | nil => simp [putNamed]
  | cons head rest ih =>
    obtain ⟨key, w⟩ := head
    rw [putNamed]
    split
    case isTrue same => rw [eq_of_beq same, List.lookup_cons_self]
    case isFalse different =>
      have headed : (name == key) = false := beq_false_of_ne fun same => different (by simp [same])
      rw [List.lookup_cons, headed]
      exact ih

theorem lookup_putNamed_of_ne {other : String} (different : other ≠ name) :
    (putNamed list name v).lookup other = list.lookup other := by
  induction list with
  | nil => rw [putNamed, List.lookup_cons, beq_false_of_ne different, List.lookup_nil]
  | cons head rest ih =>
    obtain ⟨key, w⟩ := head
    rw [putNamed]
    split
    case isTrue same =>
      have headed : (other == key) = false := beq_false_of_ne (eq_of_beq same ▸ different)
      rw [List.lookup_cons, List.lookup_cons, headed]
    case isFalse => rw [List.lookup_cons, List.lookup_cons, ih]

theorem lookup_putNamed (other : String) :
    (putNamed list name v).lookup other = if other = name then some v else list.lookup other := by
  split
  case isTrue same => rw [same, lookup_putNamed_self]
  case isFalse different => exact lookup_putNamed_of_ne list name v different

theorem mem_putNamed {list : List (String × α)} {name : String} {v : α} {item : String × α}
    (mem : item ∈ putNamed list name v) : item = (name, v) ∨ item ∈ list := by
  induction list with
  | nil => exact .inl (by simpa [putNamed] using mem)
  | cons head rest ih =>
    rw [putNamed] at mem
    split at mem
    case isTrue same =>
      rcases List.mem_cons.mp mem with equality | inRest
      · exact .inl (by rw [equality, eq_of_beq same])
      · exact .inr (List.mem_cons_of_mem _ inRest)
    case isFalse =>
      rcases List.mem_cons.mp mem with equality | inRest
      · exact .inr (equality ▸ List.mem_cons_self ..)
      · rcases ih inRest with equality | inRest
        · exact .inl equality
        · exact .inr (List.mem_cons_of_mem _ inRest)

theorem nodup_putNamed (distinct : (list.map (·.1)).Nodup) :
    ((putNamed list name v).map (·.1)).Nodup := by
  induction list with
  | nil => simp [putNamed]
  | cons head rest ih =>
    rw [List.map_cons, List.nodup_cons] at distinct
    rw [putNamed]
    split
    case isTrue same => exact List.nodup_cons.mpr ⟨distinct.1, distinct.2⟩
    case isFalse different =>
      refine List.nodup_cons.mpr ⟨?_, ih distinct.2⟩
      intro mem
      obtain ⟨item, inPut, equality⟩ := List.mem_map.mp mem
      rcases mem_putNamed inPut with rfl | inRest
      · exact different (beq_of_eq equality.symm)
      · exact distinct.1 (List.mem_map.mpr ⟨item, inRest, equality⟩)

end Named

end Orchestration
