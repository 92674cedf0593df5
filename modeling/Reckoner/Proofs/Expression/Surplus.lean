import Reckoner.Proofs.Expression.Written

/-!
# The surplus of numbers over operators

A tree has one operand more than it has operators, so its prefix and its postfix
form have a surplus of one number over the operators (`surplus_prefixed`,
`surplus_postfixed`).  In a prefix form this surplus comes with the last token
only (`surplus_nonpos_of_prefixed`), which is why a prefix form cannot be
continued to another one.
-/

namespace Reckoner

namespace Token

/-- Whether a token is a number. -/
def isNumber : Token → Bool
  | number _ => true
  | _ => false

/-- Whether a token is an operator. -/
def isOperator : Token → Bool
  | operator _ => true
  | _ => false

end Token

/-- The number of numbers among the tokens, less the number of operators. -/
def surplus (tokens : List Token) : Int :=
  tokens.countP Token.isNumber - tokens.countP Token.isOperator

@[simp] theorem surplus_nil : surplus [] = 0 := rfl

@[simp] theorem surplus_append (front back : List Token) :
    surplus (front ++ back) = surplus front + surplus back := by
  simp only [surplus, List.countP_append]
  omega

@[simp] theorem surplus_number_cons (v : Number) (tokens : List Token) :
    surplus (.number v :: tokens) = surplus tokens + 1 := by
  simp [surplus, List.countP_cons, Token.isNumber, Token.isOperator]
  omega

@[simp] theorem surplus_operator_cons (op : Operator) (tokens : List Token) :
    surplus (.operator op :: tokens) = surplus tokens - 1 := by
  simp [surplus, List.countP_cons, Token.isNumber, Token.isOperator]
  omega

namespace Expression

/-! ## Written trees -/

@[simp] theorem surplus_postfixed (t : Expression Number) :
    surplus (t.tokens .postfixed) = 1 := by
  induction t with
  | leaf v => rfl
  | node op lhs rhs ihl ihr => simp [tokens_postfixed_node, ihl, ihr]

@[simp] theorem surplus_prefixed (t : Expression Number) :
    surplus (t.tokens .prefixed) = 1 := by
  induction t with
  | leaf v => rfl
  | node op lhs rhs ihl ihr => simp [tokens_prefixed_node, ihl, ihr]

/-- Postfix forms one after the other have a surplus of one number each. -/
theorem surplus_forest (forest : List (Expression Number)) :
    surplus (forest.flatMap (tokens .postfixed)) = forest.length := by
  induction forest with
  | nil => rfl
  | cons t forest ih =>
    simp only [List.flatMap_cons, surplus_append, surplus_postfixed, ih, List.length_cons]
    omega

/-- Before its last token a prefix form has no surplus. -/
theorem surplus_nonpos_of_prefixed {t : Expression Number} {front back : List Token}
    (h : t.tokens .prefixed = front ++ back) (hne : back ≠ []) : surplus front ≤ 0 := by
  induction t generalizing front back with
  | leaf v =>
    cases front with
    | nil => simp
    | cons token front =>
      obtain ⟨-, hrest⟩ := List.cons_eq_cons.1 h
      have hback : back = [] := (List.append_eq_nil_iff.1 hrest.symm).2
      exact absurd hback hne
  | node op lhs rhs ihl ihr =>
    rw [tokens_prefixed_node] at h
    cases front with
    | nil => simp
    | cons token front =>
      obtain ⟨rfl, hrest⟩ := List.cons_eq_cons.1 h
      rw [surplus_operator_cons]
      -- the cut lies in the left operand, or after it
      rcases List.append_eq_append_iff.1 hrest with ⟨inRight, rfl, hr⟩ | ⟨more, hl, rfl⟩
      · have hright := ihr hr hne
        simp only [surplus_append, surplus_prefixed]
        omega
      · by_cases hmore : more = []
        · have hleft : surplus (lhs.tokens .prefixed) = 1 := lhs.surplus_prefixed
          rw [hl, hmore, List.append_nil] at hleft
          omega
        · have hleft := ihl hl hmore
          omega

/-- No beginning of a prefix form has a surplus of more than one number. -/
theorem surplus_le_one_of_prefixed {t : Expression Number} {front : List Token}
    (h : front <+: t.tokens .prefixed) : surplus front ≤ 1 := by
  obtain ⟨back, hback⟩ := h
  by_cases hne : back = []
  · have hwhole : surplus (t.tokens .prefixed) = 1 := t.surplus_prefixed
    rw [← hback, hne, List.append_nil] at hwhole
    omega
  · have hfront := surplus_nonpos_of_prefixed hback.symm hne
    omega

/-- At every place of a prefix form a tree starts. -/
theorem exists_prefixed_at (t : Expression Number) {i : Nat}
    (h : i < (t.tokens .prefixed).length) :
    ∃ s : Expression Number, s.tokens .prefixed <+: (t.tokens .prefixed).drop i := by
  induction t generalizing i with
  | leaf v =>
    obtain rfl : i = 0 := by
      have hone : ((leaf v).tokens .prefixed).length = 1 := rfl
      omega
    exact ⟨leaf v, List.prefix_rfl⟩
  | node op lhs rhs ihl ihr =>
    cases i with
    | zero => exact ⟨node op lhs rhs, List.prefix_rfl⟩
    | succ i =>
      rw [tokens_prefixed_node] at h ⊢
      rw [List.length_cons, List.length_append] at h
      rw [List.drop_succ_cons, List.drop_append]
      by_cases hi : i < (lhs.tokens .prefixed).length
      · obtain ⟨s, hs⟩ := ihl hi
        exact ⟨s, hs.trans (List.prefix_append _ _)⟩
      · obtain ⟨s, hs⟩ := ihr (i := i - (lhs.tokens .prefixed).length) (by omega)
        rw [List.drop_eq_nil_of_le (by omega), List.nil_append]
        exact ⟨s, hs⟩

end Expression

end Reckoner
