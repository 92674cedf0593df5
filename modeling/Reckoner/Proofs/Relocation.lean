import Reckoner.Notation.Basic
import Reckoner.Proofs.Grouped.Acceptance
import Reckoner.Proofs.Infixed.Acceptance
import Reckoner.Proofs.Infixed.Simulation
import Reckoner.Proofs.Postfixed.Acceptance
import Reckoner.Proofs.Prefixed.Acceptance
import Reckoner.Proofs.Token.Insertion

/-!
# Expressions at other places

Evaluation reads the tokens of the lexemes.  Their spans it only copies into the
fault it ends with, so lexemes with other spans have the same value, or the same
fault with the span that has taken the place of its own (`evaluateItems_relocate`).

Together with what an inserted character does to the tokens of a text, this says
that a character without meaning is invisible: outside of tokens it changes
neither a value nor a fault, but for the place of a fault behind it
(`evaluate_insert`).
-/

namespace Reckoner

/-! ## Faults at other places -/

namespace Fault

/-- The fault with another span in the place of its own. -/
def relocate (f : Span → Span) : Fault → Fault
  | empty => empty
  | unexpectedEnd => unexpectedEnd
  | unexpectedToken token span => unexpectedToken token (f span)
  | insufficientOperands op span => insufficientOperands op (f span)
  | wrongOperandCount count => wrongOperandCount count
  | unbalancedParen span => unbalancedParen (f span)
  | unclosedParen count => unclosedParen count
  | tooDeep span => tooDeep (f span)
  | unfinished token span => unfinished token (f span)

theorem span?_relocate (f : Span → Span) (fault : Fault) :
    (fault.relocate f).span? = fault.span?.map f := by
  cases fault <;> rfl

theorem relocate_of_span?_eq_none {fault : Fault} (h : fault.span? = none) (f : Span → Span) :
    fault.relocate f = fault := by
  cases fault <;> first | rfl | cases h

end Fault

/-! ## Automata -/

namespace Automaton

variable {σ α : Type} {A : Automaton σ α}

/-- An automaton looks at spans only to say where a fault lies. -/
def IgnoresSpans (A : Automaton σ α) : Prop :=
  ∀ (f : Span → Span) (s : σ) (item : Lexeme),
    A.step s (item.relocate f) = (A.step s item).mapError (Fault.relocate f)

theorem IgnoresSpans.feed_relocate (hA : A.IgnoresSpans) (f : Span → Span) (s : σ)
    (items : List Lexeme) :
    A.feed s (items.map (Lexeme.relocate f)) = (A.feed s items).mapError (Fault.relocate f) := by
  induction items generalizing s with
  | nil => rfl
  | cons item items ih =>
    have hstep := hA f s item
    rw [List.map_cons]
    cases hs : A.step s item with
    | ok s₁ =>
      rw [hs] at hstep
      rw [feed_cons hs, feed_cons hstep, ih]
    | error fault =>
      rw [hs] at hstep
      rw [feed_cons_error hs, feed_cons_error hstep]
      rfl

/-- A fault at the end has no span that could be another one. -/
theorem Viable.finish_eq_mapError (hA : A.Viable) (f : Span → Span) (s : σ) :
    A.finish s = (A.finish s).mapError (Fault.relocate f) := by
  cases hs : A.finish s with
  | ok a => rfl
  | error fault =>
    have hfault := Fault.relocate_of_span?_eq_none (hA.finish_span s fault hs) f
    exact congrArg Except.error hfault.symm

theorem Viable.run_relocate (hviable : A.Viable) (hA : A.IgnoresSpans) (f : Span → Span)
    (items : List Lexeme) :
    A.run (items.map (Lexeme.relocate f)) = (A.run items).mapError (Fault.relocate f) := by
  rw [run, run, runFrom, runFrom, hA.feed_relocate]
  cases A.feed A.start items with
  | ok s => exact hviable.finish_eq_mapError f s
  | error fault => rfl

/-- What evaluates as an automaton runs copies spans as the automaton does. -/
theorem Viable.evaluate_relocate {evaluate : List Lexeme → Except Fault Number}
    (hviable : A.Viable) (hA : A.IgnoresSpans) (value : α → Number)
    (he : ∀ items, evaluate items = (A.run items).map value) (f : Span → Span)
    (items : List Lexeme) :
    evaluate (items.map (Lexeme.relocate f)) =
      (evaluate items).mapError (Fault.relocate f) := by
  rw [he, he, hviable.run_relocate hA]
  cases A.run items <;> rfl

end Automaton

/-! ## The notations -/

/-- Whether a level may be opened does not depend on spans. -/
theorem mapError_relocate_ite {σ : Type} (f : Span → Span) (room : Prop) [Decidable room] (s : σ)
    (span : Span) :
    (if room then Except.ok s else .error (.tooDeep span)).mapError (Fault.relocate f) =
      if room then .ok s else .error (.tooDeep (f span)) := by
  split <;> rfl

theorem Prefixed.ignoresSpans_automaton (limit : Nat) : (automaton limit).IgnoresSpans := by
  rintro f (⟨frames⟩ | ⟨t⟩) ⟨token, span⟩
  · cases token with
    | operator op => exact (mapError_relocate_ite f (frames.length < limit) _ span).symm
    | number v => rfl
    | leftParen => rfl
    | rightParen => rfl
  · rfl

theorem Postfixed.ignoresSpans_automaton : automaton.IgnoresSpans := by
  rintro f ⟨operands⟩ ⟨token, span⟩
  cases token with
  | operator op => rcases operands with _ | ⟨top, _ | ⟨second, below⟩⟩ <;> rfl
  | number v => rfl
  | leftParen => rfl
  | rightParen => rfl

theorem Grouped.ignoresSpans_automaton (limit : Nat) : (automaton limit).IgnoresSpans := by
  rintro f (⟨frames⟩ | ⟨frames, lhs⟩ | ⟨frames, t⟩ | ⟨t⟩) ⟨token, span⟩
  · cases token with
    | leftParen => exact (mapError_relocate_ite f (frames.length < limit) _ span).symm
    | number v => rfl
    | operator op => rfl
    | rightParen => rfl
  · cases token <;> rfl
  · cases token <;> rfl
  · rfl

theorem Infixed.ignoresSpans_automaton (limit : Nat) : (automaton limit).IgnoresSpans := by
  rintro f (⟨p, outer⟩ | ⟨waiting, t, outer⟩) ⟨token, span⟩
  · cases token with
    | number v => rfl
    | rightParen => rfl
    | leftParen => exact (mapError_relocate_ite f (p.signs + levels outer < limit) _ span).symm
    | operator op =>
      cases op with
      | sub => exact (mapError_relocate_ite f (p.signs + levels outer < limit) _ span).symm
      | add => rfl
      | mul => rfl
      | div => rfl
  · cases token with
    | rightParen => cases outer <;> rfl
    | number v => rfl
    | operator op => rfl
    | leftParen => rfl

namespace Notation

/-- **Spans make no difference to an expression.** -/
theorem evaluateItems_relocate (n : Notation) (f : Span → Span) (items : List Lexeme) :
    n.evaluateItems (items.map (Lexeme.relocate f)) =
      (n.evaluateItems items).mapError (Fault.relocate f) := by
  cases n with
  | prefixed =>
    exact (Prefixed.viable_automaton 256).evaluate_relocate (Prefixed.ignoresSpans_automaton 256) _
      (fun items => Prefixed.evaluate_eq_map_run items 256) f items
  | postfixed =>
    refine Postfixed.viable_automaton.evaluate_relocate Postfixed.ignoresSpans_automaton id
      (fun items => ?_) f items
    rw [Except.map_id]
    exact Postfixed.evaluate_eq_run items
  | grouped =>
    exact (Grouped.viable_automaton 256).evaluate_relocate (Grouped.ignoresSpans_automaton 256) _
      (fun items => Grouped.evaluate_eq_map_run items 256) f items
  | infixed =>
    exact (Infixed.viable_automaton 256).evaluate_relocate (Infixed.ignoresSpans_automaton 256) _
      (fun items => Infixed.evaluate_eq_map_run items 256) f items

/-- **Characters without meaning are invisible.**  A character that is no digit, no
point and no symbol may be inserted at any place that is not inside of a token:
the value of the text stays the same, and so does its fault, but for its span,
which moves on by the bytes of the character if it starts at the place or after
it. -/
theorem evaluate_insert (n : Notation) (before after : String) (c : Char)
    (hc : ¬IsSignificant c) (hpoint : c ≠ '.')
    (h : ∀ item ∈ tokenize (before ++ after),
      ¬item.span.Straddles (byteCount before.toList)) :
    n.evaluate (before ++ String.singleton c ++ after) =
      (n.evaluate (before ++ after)).mapError
        (Fault.relocate (.shiftFrom (byteCount before.toList) c.utf8Size)) := by
  rw [evaluate, evaluate, tokenize_insert hc hpoint h, evaluateItems_relocate]

/-- Between two points, the second of which ends the literal before it. -/
theorem evaluate_insert_between_points :
    infixed.evaluate "1..5" = .error (.unexpectedToken (.number (.integer 5)) (.single 3)) ∧
    infixed.evaluate "1.é.5" = .error (.unexpectedToken (.number (.integer 5)) (.single 5)) :=
  have hfault : infixed.evaluate "1..5" =
    .error (.unexpectedToken (.number (.integer 5)) (.single 3)) := rfl
  ⟨hfault, (evaluate_insert infixed "1." ".5" 'é' (by decide) (by decide) (by decide)).trans
    (congrArg (Except.mapError _) hfault)⟩

end Notation

end Reckoner
