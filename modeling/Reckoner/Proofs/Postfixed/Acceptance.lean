import Reckoner.Proofs.Postfixed

/-!
# What the postfix notation accepts

The stack of operands holds the values of the trees that have been read, from
the bottom to the top, so that the lexemes read so far spell the postfix forms
of these trees one after the other.  A single tree at the end is what the
notation has a value for (`evaluate_eq_ok_iff`), and read from its end a postfix
form leaves no choice (`eq_of_spells`).
-/

namespace Reckoner.Postfixed

/-! ## The trees read so far -/

/-- The tokens spell trees whose values lie on the stack. -/
def Read (operands : Stack Number) (tokens : List Token) : Prop :=
  ∃ forest : List (Expression Number), forest.map Expression.value = operands.toList ∧
    tokens = forest.flatMap (Expression.tokens .postfixed)

theorem read_push {operands : Stack Number} {tokens : List Token} (h : Read operands tokens)
    (t : Expression Number) :
    Read (operands.push t.value) (tokens ++ t.tokens .postfixed) := by
  obtain ⟨forest, hvalues, rfl⟩ := h
  exact ⟨forest ++ [t], by simp [hvalues], by simp⟩

/-- The topmost tree on a stack is spelled last. -/
theorem Read.of_push {operands : Stack Number} {v : Number} {tokens : List Token}
    (h : Read (operands.push v) tokens) : ∃ (before : List Token) (t : Expression Number),
      tokens = before ++ t.tokens .postfixed ∧ t.value = v ∧ Read operands before := by
  obtain ⟨forest, hvalues, rfl⟩ := h
  rw [Stack.toList_push, List.map_eq_append_iff] at hvalues
  obtain ⟨below, top, rfl, hbelow, htop⟩ := hvalues
  obtain ⟨t, rfl, ht⟩ := List.map_eq_singleton_iff.1 htop
  exact ⟨below.flatMap (Expression.tokens .postfixed), t, by simp, ht, below, hbelow, rfl⟩

theorem read_step {operands operands' : Stack Number} {tokens : List Token} {item : Lexeme}
    (hs : Read operands tokens) (h : automaton.step operands item = .ok operands') :
    Read operands' (tokens ++ [item.token]) := by
  obtain ⟨token, span⟩ := item
  cases transition_of_step h with
  | number operands v => exact read_push hs (.leaf v)
  | operator below l r op =>
    obtain ⟨before, rhs, rfl, rfl, hrest⟩ := hs.of_push
    obtain ⟨before, lhs, rfl, rfl, hbelow⟩ := hrest.of_push
    have hread := read_push hbelow (.node op lhs rhs)
    rw [Expression.tokens_postfixed_node, ← List.append_assoc, ← List.append_assoc] at hread
    exact hread

/-- The stack records the trees that have been read. -/
theorem records_automaton : automaton.Records Read fun v tokens =>
    ∃ t : Expression Number, tokens = t.tokens .postfixed ∧ t.value = v where
  start := ⟨[], rfl, rfl⟩
  step _ _ _ _ hs h := read_step hs h
  finish := by
    intro operands tokens v hs h
    have hsingle : operands.single = .ok v := by
      have hresult : result operands = .ok v := h
      rw [result] at hresult
      split at hresult
      · cases hresult
        assumption
      · cases hresult
      · cases hresult
    obtain rfl := Stack.single_eq_ok_iff.1 hsingle
    obtain ⟨before, t, rfl, ht, forest, hforest, rfl⟩ := hs.of_push
    obtain rfl : forest = [] := List.map_eq_nil_iff.1 hforest
    exact ⟨t, rfl, ht⟩

/-! ## Accepted lists -/

variable {items : List Lexeme}

/-- **The postfix notation evaluates postfix forms.** -/
theorem evaluate_eq_ok_iff {v : Number} : evaluate items = .ok v ↔
    ∃ t : Expression Number, Spells items t.postfixed ∧ t.value = v := by
  constructor
  · intro h
    rw [evaluate_eq_run] at h
    obtain ⟨t, ht, hv⟩ := records_automaton.run h
    exact ⟨t, ht, hv⟩
  · rintro ⟨t, ht, rfl⟩
    exact evaluate_postfixed ht

/-- Of two lists that end with postfix forms the forms are the same. -/
theorem eq_of_append_tokens_eq {t t' : Expression Number} {front front' : List Token}
    (h : front ++ t.tokens .postfixed = front' ++ t'.tokens .postfixed) :
    front = front' ∧ t = t' := by
  induction t generalizing t' front front' with
  | leaf v =>
    cases t' with
    | leaf v' =>
      obtain ⟨hfront, hlast⟩ := List.append_inj' h rfl
      cases hlast
      exact ⟨hfront, rfl⟩
    | node op lhs rhs =>
      rw [Expression.tokens_postfixed_node, ← List.append_assoc, ← List.append_assoc] at h
      cases (List.append_inj' h rfl).2
  | node op lhs rhs ihl ihr =>
    rw [Expression.tokens_postfixed_node, ← List.append_assoc, ← List.append_assoc] at h
    cases t' with
    | leaf v' => cases (List.append_inj' h rfl).2
    | node op' lhs' rhs' =>
      rw [Expression.tokens_postfixed_node, ← List.append_assoc, ← List.append_assoc] at h
      obtain ⟨hboth, hop⟩ := List.append_inj' h rfl
      cases hop
      obtain ⟨hleft, rfl⟩ := ihr hboth
      obtain ⟨hfront, rfl⟩ := ihl hleft
      exact ⟨hfront, rfl⟩

/-- A postfix form can be read in one way only. -/
theorem eq_of_spells {t t' : Expression Number} (h : Spells items t.postfixed)
    (h' : Spells items t'.postfixed) : t = t' := by
  have htokens : ([] : List Token) ++ t.tokens .postfixed = [] ++ t'.tokens .postfixed :=
    h.symm.trans h'
  exact (eq_of_append_tokens_eq htokens).2

/-! ## Empty expressions -/

theorem finish_push_ne_empty (operands : Stack Number) (v : Number) :
    automaton.finish (operands.push v) ≠ .error .empty := by
  obtain ⟨_ | ⟨w, below⟩⟩ := operands <;> nofun

theorem finish_step_ne_empty {operands operands' : Stack Number} {item : Lexeme}
    (h : automaton.step operands item = .ok operands') :
    automaton.finish operands' ≠ .error .empty := by
  obtain ⟨token, span⟩ := item
  cases transition_of_step h with
  | number operands v => exact finish_push_ne_empty operands v
  | operator below lhs rhs op => exact finish_push_ne_empty below (op.apply lhs rhs)

/-- Only without lexemes is a postfix expression empty. -/
theorem evaluate_eq_empty_iff : evaluate items = .error .empty ↔ items = [] := by
  rw [evaluate_eq_run]
  exact viable_automaton.run_eq_empty_iff rfl fun _ _ _ => finish_step_ne_empty

end Reckoner.Postfixed
