import Reckoner.Proofs.Grouped.Acceptance
import Reckoner.Proofs.Infixed.Grammar
import Reckoner.Proofs.Postfixed.Acceptance
import Reckoner.Proofs.Prefixed.Acceptance

/-!
# What lexemes denote

A term is what is left of an expression when its notation is forgotten: numbers,
the operations on them, and the minus signs that only the infix notation has.
`Notation.Denotes` says which terms a list of lexemes stands for, under the
grouping of the notation and without a limit on nesting.  There is at most one
(`Notation.Denotes.unique`), and a list that evaluates stands for a term with
the value it evaluates to (`Notation.exists_denotes`).
-/

namespace Reckoner

/-- An expression without its notation. -/
inductive Term where
  | number (v : Number)
  | minus (operand : Term)
  | binary (op : Operator) (lhs rhs : Term)

namespace Term

/-- The value of a term. -/
def value : Term → Number
  | number v => v
  | minus t => -t.value
  | binary op lhs rhs => op.apply lhs.value rhs.value

end Term

/-- The term of a tree. -/
def Expression.term : Expression Number → Term
  | leaf v => .number v
  | node op lhs rhs => .binary op lhs.term rhs.term

@[simp] theorem Expression.value_term (t : Expression Number) : t.term.value = t.value := by
  induction t with
  | leaf v => rfl
  | node op lhs rhs ihl ihr => rw [term, Term.value, ihl, ihr, value]

/-- The term of a phrase; parentheses only group. -/
def Infixed.Derivation.term {k : Category} : Derivation k → Term
  | number v => .number v
  | minus t => .minus t.term
  | group t => t.term
  | ofSingle t => t.term
  | times lhs op rhs => .binary op.1 lhs.term rhs.term
  | ofProduct t => t.term
  | plus lhs op rhs => .binary op.1 lhs.term rhs.term

@[simp] theorem Infixed.Derivation.value_term {k : Category} (t : Derivation k) :
    t.term.value = t.value := by
  induction t with
  | number v => rfl
  | minus t ih => rw [term, Term.value, ih, value]
  | group t ih => exact ih
  | ofSingle t ih => exact ih
  | times lhs op rhs ihl ihr => rw [term, Term.value, ihl, ihr, value]
  | ofProduct t ih => exact ih
  | plus lhs op rhs ihl ihr => rw [term, Term.value, ihl, ihr, value]

namespace Notation

/-- The lexemes stand for the term in the notation. -/
def Denotes : Notation → List Lexeme → Term → Prop
  | infixed, items, t =>
    ∃ d : Infixed.Derivation .sum, d.tokens = items.map Lexeme.token ∧ d.term = t
  | n, items, t => ∃ e : Expression Number, Spells items (e.written n) ∧ e.term = t

variable {n : Notation} {items : List Lexeme}

/-- Lexemes stand for one term at most. -/
theorem Denotes.unique {t t' : Term} (h : n.Denotes items t) (h' : n.Denotes items t') :
    t = t' := by
  cases n with
  | prefixed =>
    obtain ⟨e, he, rfl⟩ := h
    obtain ⟨e', he', rfl⟩ := h'
    rw [Prefixed.eq_of_spells he he']
  | postfixed =>
    obtain ⟨e, he, rfl⟩ := h
    obtain ⟨e', he', rfl⟩ := h'
    rw [Postfixed.eq_of_spells he he']
  | grouped =>
    obtain ⟨e, he, rfl⟩ := h
    obtain ⟨e', he', rfl⟩ := h'
    rw [Grouped.eq_of_spells he he']
  | infixed =>
    obtain ⟨d, hd, rfl⟩ := h
    obtain ⟨d', hd', rfl⟩ := h'
    rw [Infixed.Derivation.eq_of_tokens_eq (hd.trans hd'.symm)]

/-- What a list evaluates to is the value of the term it stands for. -/
theorem exists_denotes {v : Number} (h : n.evaluateItems items = .ok v) :
    ∃ t, n.Denotes items t ∧ t.value = v := by
  cases n with
  | prefixed =>
    obtain ⟨e, he, -, rfl⟩ := Prefixed.evaluate_eq_ok_iff.1 h
    exact ⟨e.term, ⟨e, he, rfl⟩, e.value_term⟩
  | postfixed =>
    obtain ⟨e, he, rfl⟩ := Postfixed.evaluate_eq_ok_iff.1 h
    exact ⟨e.term, ⟨e, he, rfl⟩, e.value_term⟩
  | grouped =>
    obtain ⟨e, he, -, rfl⟩ := Grouped.evaluate_eq_ok_iff.1 h
    exact ⟨e.term, ⟨e, he, rfl⟩, e.value_term⟩
  | infixed =>
    obtain ⟨d, hd, -, rfl⟩ := Infixed.evaluate_eq_ok_iff.1 h
    exact ⟨d.term, ⟨d, hd, rfl⟩, d.value_term⟩

end Notation

end Reckoner
