import Reckoner.Proofs.Automaton
import Reckoner.Proofs.Expression.Written

/-!
# The postfix notation as an automaton

The stack of operands is the state of an automaton, and evaluating a list of
lexemes is its run (`evaluate_eq_run`).  On the postfix form of a tree it puts
the value of the tree on the stack, however high the tree is (`feed_postfixed`),
so a written tree has its value (`evaluate_postfixed`).
-/

namespace Reckoner.Postfixed

/-- The automaton of the postfix notation. -/
def automaton : Automaton (Stack Number) Number where
  start := .empty
  step := step
  finish := result

theorem feed_eq_run (operands : Stack Number) (items : List Lexeme) :
    automaton.feed operands items = run operands items := by
  induction items generalizing operands with
  | nil => rfl
  | cons item items ih =>
    rw [run]
    cases h : step operands item with
    | ok operands' => rw [Automaton.feed_cons h, ih]
    | error fault => rw [Automaton.feed_cons_error h]

/-- The value of a postfix expression is the result of the automaton. -/
theorem evaluate_eq_run (items : List Lexeme) : evaluate items = automaton.run items := by
  rw [evaluate, Automaton.run, Automaton.runFrom]
  rw [show automaton.start = .empty from rfl, feed_eq_run]
  cases run .empty items <;> rfl

/-! ## Steps -/

theorem step_number (operands : Stack Number) (v : Number) (span : Span) :
    automaton.step operands ⟨.number v, span⟩ = .ok (operands.push v) := rfl

theorem step_operator (below : Stack Number) (lhs rhs : Number) (op : Operator) (span : Span) :
    automaton.step ((below.push lhs).push rhs) ⟨.operator op, span⟩ =
      .ok (below.push (op.apply lhs rhs)) := rfl

/-- The steps that lexemes allow. -/
inductive Transition : Stack Number → Token → Stack Number → Prop where
  | number (operands : Stack Number) (v : Number) :
    Transition operands (.number v) (operands.push v)
  | operator (below : Stack Number) (lhs rhs : Number) (op : Operator) :
    Transition ((below.push lhs).push rhs) (.operator op) (below.push (op.apply lhs rhs))

theorem transition_of_step {operands operands' : Stack Number} {item : Lexeme}
    (h : automaton.step operands item = .ok operands') :
    Transition operands item.token operands' := by
  obtain ⟨elements⟩ := operands
  obtain ⟨token, span⟩ := item
  cases token with
  | leftParen => cases h
  | rightParen => cases h
  | number v =>
    cases h
    exact .number ⟨elements⟩ v
  | operator op =>
    match elements with
    | [] => cases h
    | [_] => cases h
    | rhs :: lhs :: below =>
      cases h
      exact .operator ⟨below⟩ lhs rhs op

/-! ## Runs on written trees -/

/-- The automaton puts the value of a written tree on its stack. -/
theorem feed_postfixed {t : Expression Number} : ∀ (operands : Stack Number)
    {items : List Lexeme}, Spells items t.postfixed →
      automaton.feed operands items = .ok (operands.push t.value) := by
  induction t with
  | leaf v =>
    intro operands items hs
    obtain ⟨span, none, rfl, hn⟩ := hs.of_cons
    rw [hn.eq_nil]
    exact Automaton.feed_cons (step_number ..)
  | node op lhs rhs ihl ihr =>
    intro operands items hs
    obtain ⟨left, others, rfl, hl, ho⟩ := hs.of_append
    obtain ⟨right, last, rfl, hr, hc⟩ := ho.of_append
    obtain ⟨span, none, rfl, hn⟩ := hc.of_cons
    rw [hn.eq_nil, Automaton.feed_append (ihl operands hl), Automaton.feed_append (ihr _ hr)]
    exact Automaton.feed_cons (step_operator ..)

/-- A written tree has its value. -/
theorem evaluate_postfixed {t : Expression Number} {items : List Lexeme}
    (hs : Spells items t.postfixed) : evaluate items = .ok t.value := by
  rw [evaluate_eq_run, Automaton.run_of_feed (feed_postfixed .empty hs)]
  rfl

/-! ## Completions -/

/-- Operators join the operands on a stack until one is left. -/
theorem runFrom_push_completes (operands : List Number) (v : Number) :
    ∃ items a, automaton.runFrom ⟨v :: operands⟩ items = .ok a := by
  induction operands generalizing v with
  | nil => exact ⟨[], v, rfl⟩
  | cons w operands ih =>
    obtain ⟨items, a, h⟩ := ih (w + v)
    exact ⟨⟨.operator .add, .single 0⟩ :: items, a,
      (Automaton.runFrom_cons (step_operator ⟨operands⟩ w v .add _)).trans h⟩

/-- Every stack can be completed. -/
theorem viable_automaton : automaton.Viable where
  completes := by
    rintro ⟨_ | ⟨v, operands⟩⟩
    · exact ⟨[⟨.number (.integer 0), .single 0⟩], .integer 0, rfl⟩
    · exact runFrom_push_completes operands v
  step_span := by
    rintro ⟨operands⟩ ⟨token, span⟩ fault h
    cases token with
    | number v => cases h
    | leftParen => cases h; rfl
    | rightParen => cases h; rfl
    | operator op =>
      match operands with
      | [] => cases h; rfl
      | [_] => cases h; rfl
      | _ :: _ :: _ => cases h
  finish_span := by
    rintro ⟨_ | ⟨v, _ | ⟨w, operands⟩⟩⟩ fault h <;> cases h <;> rfl

end Reckoner.Postfixed
