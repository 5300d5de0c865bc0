import Orchestration.Expression.Itemization
import Orchestration.Spec.Basic

/-!
Where a line is cut.

What a task is repeated over, and the name of an action with parameters, are found by the first `in`
between blanks, and by the first blank. Names in their usual spelling come out again. An action is
refused if it has parameters but no blank.
-/

namespace Orchestration

namespace Text

variable {w c : Char} {ws before after : List Char}

/-- What does not hold the first letter of a word is passed over. -/
theorem cutFirst?_append (apart : w ∉ before) : cutFirst? (w :: ws) (before ++ after) =
    (cutFirst? (w :: ws) after).map fun found => (before ++ found.1, found.2) := by
  induction before with
  | nil => simp
  | cons c rest ih =>
    obtain ⟨differs, apart⟩ := List.ne_and_not_mem_of_not_mem_cons apart
    rw [List.cons_append, cutFirst?, afterHead?, if_neg (by simpa using differs), ih apart]
    simp [Function.comp_def]

theorem cutFirst?_letter (c : Char) (cs : List Char) :
    (cutFirst? [c] cs).map (·.1) = if c ∈ cs then some (cs.takeWhile (· != c)) else none := by
  induction cs with
  | nil => rfl
  | cons d rest ih =>
    by_cases same : c = d
    · simp [cutFirst?, afterHead?, same]
    · have onward := congrArg (Option.map (d :: ·)) ih
      rw [Option.map_map] at onward
      rw [cutFirst?, afterHead?, if_neg (by simpa using same), Option.map_map]
      refine Eq.trans onward ?_
      by_cases there : c ∈ rest <;> simp [there, same, Ne.symm same]

theorem replaceChars_nil (c : Char) (cs : List Char) :
    replaceChars [c] [] cs none = cs.filter (· != c) := by
  have joined (words : List (List Char)) : [].intercalate words = words.flatten := by
    induction words with
    | nil => rfl
    | cons word rest ih => cases rest <;> simp_all [List.intercalate_cons_cons]
  have general (before : List Char) : (splitFrom [c] 0 none before cs).flatten = before.reverse ++
      cs.filter (· != c) := by
    induction cs generalizing before with
    | nil => simp [splitFrom]
    | cons d rest ih =>
      by_cases same : c = d
      · cases same
        simp [splitFrom, afterHead?, ih]
      · simp [splitFrom, afterHead?, same, Ne.symm same, ih]
  rw [replaceChars, joined]
  exact general []

theorem splitFrom_append (apart : c ∉ ws) (before after : List Char) :
    splitFrom [c] 0 none before (ws ++ after) = splitFrom [c] 0 none
      (ws.reverse ++ before) after := by
  induction ws generalizing before with
  | nil => rfl
  | cons d rest ih =>
    obtain ⟨differs, apart⟩ := List.ne_and_not_mem_of_not_mem_cons apart
    rw [List.cons_append, splitFrom, if_neg (by simp [afterHead?, differs]), ih apart]
    simp

theorem splitFrom_intercalate {word : List Char} {words : List (List Char)}
    (apart : ∀ one ∈ word :: words, c ∉ one) :
    splitFrom [c] 0 none [] ([c].intercalate (word :: words)) = word :: words := by
  induction words generalizing word with
  | nil => simpa [splitFrom] using splitFrom_append (apart word (List.mem_singleton_self _)) [] []
  | cons next more ih =>
    obtain ⟨first, others⟩ := List.forall_mem_cons.mp apart
    rw [List.intercalate_cons_cons, List.append_assoc, splitFrom_append first]
    simp [splitFrom, afterHead?, ih others]

end Text

namespace Itemization

/-- A name as it stands before `in`. -/
def Plain (name : List Char) : Prop := ' ' ∉ name ∧ ',' ∉ name ∧ name ≠ ['i', 'n']

def spell (names : List (List Char)) : List Char := [',', ' '].intercalate names

variable {name : List Char} {names : List (List Char)}

theorem afterHead?_in {c : Char} {after : List Char} (plain : Plain name)
    (ends : c = ' ' ∨ c = ',') : Text.afterHead? ['i', 'n', ' '] (name ++ c :: after) = none := by
  obtain ⟨blank, -, other⟩ := plain
  rcases name with _ | ⟨_, _ | ⟨_, _ | _⟩⟩ <;> rcases ends with rfl | rfl <;>
    grind [Text.afterHead?]

/-- The first `in` between blanks is the one behind the names. -/
theorem cutFirst?_spell (plain : ∀ one ∈ name :: names, Plain one) (after : List Char) :
    Text.cutFirst? " in ".toList (spell (name :: names) ++ (" in ".toList ++ after)) = some
      (spell (name :: names), after) := by
  rw [show " in ".toList = [' ', 'i', 'n', ' '] from rfl]
  unfold spell
  induction names generalizing name with
  | nil =>
    rw [List.intercalate_singleton,
      Text.cutFirst?_append (plain name (List.mem_singleton_self _)).1]
    simp [Text.cutFirst?, Text.afterHead?]
  | cons next more ih =>
    obtain ⟨first, others⟩ := List.forall_mem_cons.mp plain
    have passed : ' ' ∉ name ++ [','] := by simp [first.1]
    -- The blank behind a comma begins no `in`, as no name is one.
    have early : Text.afterHead? ['i', 'n', ' ']
        ([',', ' '].intercalate (next :: more) ++ ([' ', 'i', 'n', ' '] ++ after)) = none := by
      have isPlain := others next (List.mem_cons_self ..)
      cases more with
      | nil => simpa using afterHead?_in isPlain (.inl rfl)
      | cons _ _ => simpa [List.intercalate_cons_cons] using afterHead?_in isPlain (.inr rfl)
    rw [List.intercalate_cons_cons, show name ++ [',', ' '] = name ++ [','] ++ [' '] by simp,
      List.append_assoc, List.append_assoc, Text.cutFirst?_append passed, List.append_assoc,
      List.singleton_append, Text.cutFirst?, Text.afterHead?,
      beq_self_eq_true, if_pos rfl, early, ih others]
    simp

theorem filter_spell (plain : ∀ one ∈ name :: names, Plain one) :
    (spell (name :: names)).filter (· != ' ') = [','].intercalate (name :: names) := by
  have alone {one : List Char} (isPlain : Plain one) : one.filter (· != ' ') = one :=
    List.filter_eq_self.mpr fun c mem => bne_iff_ne.mpr fun same => isPlain.1 (same ▸ mem)
  unfold spell
  induction names generalizing name with
  | nil => simpa using alone (plain name (List.mem_singleton_self _))
  | cons next more ih =>
    obtain ⟨first, others⟩ := List.forall_mem_cons.mp plain
    rw [List.intercalate_cons_cons, List.intercalate_cons_cons, List.filter_append, ih others,
      List.filter_append, alone first]
    rfl

/-- Names in their usual spelling are the keys of the items, and the expression is what follows
them. -/
theorem keys_of_spell (plain : ∀ one ∈ name :: names, Plain one) (rest : List Char) :
    expression (.ofList (spell (name :: names) ++ (" in ".toList ++ rest))) = Text.trim
      (.ofList rest) ∧ keys (.ofList (spell (name :: names) ++ (" in ".toList ++ rest))) = some
      ((name :: names).map String.ofList) := by
  have halved : halves (.ofList (spell (name :: names) ++ (" in ".toList ++ rest))) =
      some (.ofList (spell (name :: names)), .ofList rest) := by
    have cut := cutFirst?_spell plain rest
    rw [← @String.toList_ofList (spell (name :: names) ++ (" in ".toList ++ rest))] at cut
    rw [halves, cut]
    rfl
  refine ⟨by rw [expression, halved], ?_⟩
  have replaced := Text.replaceChars_nil ' ' (spell (name :: names))
  have split := Text.splitFrom_intercalate fun one isOne => (plain one isOne).2.1
  rw [filter_spell plain] at replaced
  rw [keys, halved]
  simp [Text.splitText, Text.replace, replaced, Text.splitOn, split]

end Itemization

/-- An action with parameters is cut at its first blank, and refused if it has none. Without
parameters it stays as it is. -/
theorem Spec.taskGiven_eq {raw : Value} {text : String} (said : raw.field "action" = .str text) :
    taskGiven raw = if (parameterMap text).truthy then
      if ' ' ∈ text.toList then
        .ok [("action", .str (.ofList (text.toList.takeWhile (· != ' ')))),
          ("input", parameterMap text)]
      else .error (.broken .value "substring not found")
    else .ok [] := by
  have cut := Text.cutFirst?_letter ' ' text.toList
  unfold taskGiven
  rw [said]
  dsimp only
  split
  · split
    · grind
    · grind
  · rfl

end Orchestration
