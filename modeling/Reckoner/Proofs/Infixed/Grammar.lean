import Reckoner.Proofs.Infixed.Acceptance
import Reckoner.Proofs.Infixed.Simulation

/-!
# Infix expressions are those of the grammar

The reading never builds a derivation, and nothing in it looks like the rules of
the grammar: chains are closed by a count of open groups, and additive operators
wait on a list.  Still it gives a value to exactly the phrases the grammar
derives, and the value it gives is that of their only derivation.
-/

namespace Reckoner.Infixed

/-- What the notation evaluates to has a derivation of that value with room for
its levels. -/
theorem evaluate_eq_ok_iff {limit : Nat} {items : List Lexeme} {v : Number} :
    evaluate items limit = .ok v ↔ ∃ t : Derivation .sum,
      t.tokens = items.map Lexeme.token ∧ t.depth ≤ limit ∧ t.value = v := by
  rw [evaluate_eq_map_run, parses_automaton.map_run_eq_ok_iff]
  exact exists_congr fun t => and_congr eq_comm Iff.rfl

/-- Only without lexemes is an infix expression empty. -/
theorem evaluate_eq_empty_iff {limit : Nat} {items : List Lexeme} :
    evaluate items limit = .error .empty ↔ items = [] := by
  rw [evaluate_eq_map_run, Automaton.map_run_eq_error_iff]
  exact (viable_automaton limit).run_eq_empty_iff rfl fun _ _ _ => finish_step_ne_empty

/-- **The notation evaluates the grammar.**  A list of lexemes has the value `v`
exactly when the grammar derives it as a sum of that value with at most 256
levels open at any of its tokens; and it has no other derivation. -/
theorem evaluate_eq_ok_iff_derivation (items : List Lexeme) :
    (∀ v, evaluate items = .ok v ↔ ∃ t : Derivation .sum,
      t.tokens = items.map Lexeme.token ∧ (∀ l ∈ t.openLevels 0, l ≤ 256) ∧ t.value = v) ∧
    ∀ t t' : Derivation .sum,
      t.tokens = items.map Lexeme.token → t'.tokens = items.map Lexeme.token → t = t' := by
  refine ⟨fun v => ?_, fun t t' h h' => Derivation.eq_of_tokens_eq (h.trans h'.symm)⟩
  simp only [Derivation.forall_openLevels_le_iff, Nat.zero_add]
  exact evaluate_eq_ok_iff

end Reckoner.Infixed
