import Reckoner.Notation.Basic
import Reckoner.Proofs.Grouped
import Reckoner.Proofs.Infixed.Acceptance
import Reckoner.Proofs.Infixed.Simulation
import Reckoner.Proofs.Postfixed
import Reckoner.Proofs.Prefixed

/-!
# Where expressions fail

A fault with a span points at the first lexeme that no expression can have in
its place; what comes before it can be completed, and what comes after it makes
no difference.  A fault without a span says that the lexemes end too early: with
more of them there is an expression (`fault_located`).

Each notation evaluates as its automaton runs, and no automaton has a state that
leads nowhere, so this is `Automaton.Viable.located` four times.
-/

namespace Reckoner

/-- The fault tells how far the lexemes can be completed to something that
`evaluate` gives a value to. -/
structure Located (evaluate : List Lexeme → Except Fault Number) (items : List Lexeme)
    (fault : Fault) : Prop where
  /-- With a span, the fault lies at a lexeme. -/
  span : ∀ s, fault.span? = some s → ∃ (i : Nat) (h : i < items.length), items[i].span = s ∧
    (∃ more v, evaluate (items.take i ++ more) = .ok v) ∧
    (∀ more v, evaluate (items.take (i + 1) ++ more) ≠ .ok v) ∧
    ∀ more, evaluate (items.take (i + 1) ++ more) = .error fault
  /-- Without a span, lexemes are missing at the end. -/
  missing : fault.span? = none → ∃ more v, more ≠ [] ∧ evaluate (items ++ more) = .ok v

/-- What evaluates as a viable automaton runs has located faults. -/
theorem Automaton.Viable.located_of_eq_map {σ α : Type} {A : Automaton σ α} (value : α → Number)
    {evaluate : List Lexeme → Except Fault Number} {items : List Lexeme} {fault : Fault}
    (hA : A.Viable) (he : ∀ items, evaluate items = (A.run items).map value)
    (h : evaluate items = .error fault) : Located evaluate items fault := by
  have hok : ∀ {items a}, A.run items = .ok a → evaluate items = .ok (value a) := by
    intro items a hr
    rw [he, hr]
    rfl
  have herror : ∀ {items}, A.run items = .error fault → evaluate items = .error fault := by
    intro items hr
    rw [he, hr]
    rfl
  have hrun : A.run items = .error fault := map_run_eq_error_iff.1 ((he items).symm.trans h)
  obtain ⟨hspan, hmissing⟩ := hA.located hrun
  refine ⟨fun s hs => ?_, fun hs => ?_⟩
  · obtain ⟨before, item, after, rfl, hitem, ⟨more, a, hm⟩, hfail⟩ := hspan s hs
    have htake : ∀ more, evaluate ((before ++ item :: after).take (before.length + 1) ++ more) =
        .error fault := by
      intro more
      rw [List.take_length_add_append, List.take_succ_cons, List.take_zero, List.append_assoc]
      exact herror (hfail more)
    refine ⟨before.length, by simp, by simpa using hitem, ⟨more, value a, ?_⟩, ?_, htake⟩
    · rw [List.take_left]
      exact hok hm
    · intro more v hv
      rw [htake] at hv
      cases hv
  · obtain ⟨more, a, hne, hm⟩ := hmissing hs
    exact ⟨more, value a, hne, hok hm⟩

/-- **Every fault is reported where the lexemes stop being completable.** -/
theorem Notation.fault_located (n : Notation) (items : List Lexeme) (fault : Fault)
    (h : n.evaluateItems items = .error fault) : Located n.evaluateItems items fault := by
  cases n with
  | prefixed =>
    exact (Prefixed.viable_automaton 256).located_of_eq_map Expression.value
      (fun items => Prefixed.evaluate_eq_map_run items 256) h
  | postfixed =>
    refine Postfixed.viable_automaton.located_of_eq_map id (fun items => ?_) h
    rw [Except.map_id]
    exact Postfixed.evaluate_eq_run items
  | grouped =>
    exact (Grouped.viable_automaton 256).located_of_eq_map Expression.value
      (fun items => Grouped.evaluate_eq_map_run items 256) h
  | infixed =>
    exact (Infixed.viable_automaton 256).located_of_eq_map Infixed.Derivation.value
      (fun items => Infixed.evaluate_eq_map_run items 256) h

theorem Notation.fault_located_missing_operand :
    Located infixed.evaluateItems
      [⟨.number (.integer 1), .single 0⟩, ⟨.operator .add, .single 2⟩, ⟨.operator .mul, .single 4⟩]
      (.unexpectedToken (.operator .mul) (.single 4)) :=
  fault_located infixed _ _ rfl

end Reckoner
