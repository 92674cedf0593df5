import Reckoner.Proofs.Expression.Written
import Reckoner.Proofs.Infixed.Grammar

/-!
# Infix forms of arithmetic trees

The infix form of a tree has parentheses only around operands that the grammar
would group otherwise.  It is derived by the grammar as the tree is built, with
a group for each pair of parentheses, and so it has the value of the tree
(`evaluate_infixed`).  The same holds of the fully parenthesised form, each
operation of which is an operand (`evaluate_grouped`).
-/

namespace Reckoner

namespace Infixed.Derivation

/-- A sum as a product, in parentheses when it has an additive operator. -/
def toProduct : Derivation .sum → Derivation .product
  | ofProduct t => t
  | plus lhs op rhs => ofSingle (group (plus lhs op rhs))

/-- A sum as a single, in parentheses when it has any operator. -/
def toSingle : Derivation .sum → Derivation .single
  | ofProduct (ofSingle t) => t
  | ofProduct (times lhs op rhs) => group (ofProduct (times lhs op rhs))
  | plus lhs op rhs => group (plus lhs op rhs)

theorem value_toProduct (t : Derivation .sum) : t.toProduct.value = t.value := by
  cases t <;> rfl

theorem value_toSingle (t : Derivation .sum) : t.toSingle.value = t.value := by
  cases t with
  | plus lhs op rhs => rfl
  | ofProduct t => cases t <;> rfl

theorem depth_toProduct_le (t : Derivation .sum) : t.toProduct.depth ≤ t.depth + 1 := by
  cases t with
  | plus lhs op rhs => exact Nat.le_refl _
  | ofProduct t => exact Nat.le_succ _

theorem depth_toSingle_le (t : Derivation .sum) : t.toSingle.depth ≤ t.depth + 1 := by
  cases t with
  | plus lhs op rhs => exact Nat.le_refl _
  | ofProduct t =>
    cases t with
    | ofSingle t => exact Nat.le_succ _
    | times lhs op rhs => exact Nat.le_refl _

end Infixed.Derivation

namespace Expression

open Infixed

/-- The derivation of the infix form of a tree. -/
def asSum : Expression Number → Derivation .sum
  | leaf v => .ofProduct (.ofSingle (.number v))
  | node op lhs rhs =>
    match h : op.precedence with
    | .additive => .plus lhs.asSum.toProduct ⟨op, h⟩ rhs.asSum
    | .multiplicative => .ofProduct (.times lhs.asSum.toProduct ⟨op, h⟩ rhs.asSum.toSingle)

section

variable {op : Operator} (lhs rhs : Expression Number)

theorem asSum_node_additive (h : op.precedence = .additive) :
    (node op lhs rhs).asSum = .plus lhs.asSum.toProduct ⟨op, h⟩ rhs.asSum := by
  cases op <;> first | rfl | cases h

theorem asSum_node_multiplicative (h : op.precedence = .multiplicative) :
    (node op lhs rhs).asSum =
      .ofProduct (.times lhs.asSum.toProduct ⟨op, h⟩ rhs.asSum.toSingle) := by
  cases op <;> first | rfl | cases h

end

/-- The derivation has the value of the tree. -/
theorem value_asSum (t : Expression Number) : t.asSum.value = t.value := by
  induction t with
  | leaf v => rfl
  | node op lhs rhs ihl ihr =>
    cases h : op.precedence with
    | additive =>
      rw [asSum_node_additive lhs rhs h, Derivation.value, Derivation.value_toProduct, ihl, ihr,
        value]
    | multiplicative =>
      rw [asSum_node_multiplicative lhs rhs h, Derivation.value, Derivation.value,
        Derivation.value_toProduct, Derivation.value_toSingle, ihl, ihr, value]

/-- A tree has at least as many operators above each other as its derivation has
parentheses. -/
theorem depth_asSum_le (t : Expression Number) : t.asSum.depth ≤ t.height := by
  induction t with
  | leaf v => exact Nat.le_refl _
  | node op lhs rhs ihl ihr =>
    have hl := Derivation.depth_toProduct_le lhs.asSum
    have hr := Derivation.depth_toSingle_le rhs.asSum
    cases h : op.precedence with
    | additive =>
      rw [asSum_node_additive lhs rhs h, Derivation.depth, height]
      omega
    | multiplicative =>
      rw [asSum_node_multiplicative lhs rhs h, Derivation.depth, Derivation.depth, height]
      omega

/-! ## Tokens -/

theorem map_token_enclosed (needed : Bool) (pieces : List (Piece Number)) :
    (enclosed needed pieces).map Piece.token =
      if needed then .leftParen :: (pieces.map Piece.token ++ [.rightParen])
      else pieces.map Piece.token := by
  cases needed <;> simp [enclosed, Piece.token]

/-- A left operand is in parentheses when it is additive. -/
theorem tokens_toProduct {t : Expression Number}
    (h : t.asSum.tokens = t.infixed.map Piece.token) :
    t.asSum.toProduct.tokens = (enclosed t.isAdditive t.infixed).map Piece.token := by
  rw [map_token_enclosed, ← h]
  cases t with
  | leaf v => rfl
  | node op lhs rhs =>
    cases hp : op.precedence with
    | additive =>
      rw [asSum_node_additive lhs rhs hp, isAdditive, hp]
      rfl
    | multiplicative =>
      rw [asSum_node_multiplicative lhs rhs hp, isAdditive, hp]
      rfl

/-- The right operand of a multiplicative operator is in parentheses when it is
compound. -/
theorem tokens_toSingle {t : Expression Number}
    (h : t.asSum.tokens = t.infixed.map Piece.token) :
    t.asSum.toSingle.tokens = (enclosed t.isCompound t.infixed).map Piece.token := by
  rw [map_token_enclosed, ← h]
  cases t with
  | leaf v => rfl
  | node op lhs rhs =>
    cases hp : op.precedence with
    | additive =>
      rw [asSum_node_additive lhs rhs hp]
      rfl
    | multiplicative =>
      rw [asSum_node_multiplicative lhs rhs hp]
      rfl

/-- The grammar derives the infix form of a tree. -/
theorem tokens_asSum (t : Expression Number) :
    t.asSum.tokens = t.infixed.map Piece.token := by
  induction t with
  | leaf v => rfl
  | node op lhs rhs ihl ihr =>
    rw [infixed, List.map_append, List.map_cons, ← tokens_toProduct ihl]
    cases h : op.precedence with
    | additive =>
      rw [asSum_node_additive lhs rhs h, Derivation.tokens, ihr]
      rfl
    | multiplicative =>
      rw [asSum_node_multiplicative lhs rhs h, Derivation.tokens, Derivation.tokens,
        tokens_toSingle ihr]
      rfl

/-! ## Fully parenthesised forms -/

/-- The derivation of the fully parenthesised form of a tree. -/
def asSingle : Expression Number → Derivation .single
  | leaf v => .number v
  | node op lhs rhs => .group (.chain (.ofSingle lhs.asSingle) [(op, rhs.asSingle)])

theorem value_asSingle (t : Expression Number) : t.asSingle.value = t.value := by
  induction t with
  | leaf v => rfl
  | node op lhs rhs ihl ihr =>
    rw [asSingle, Derivation.value, Derivation.value_chain_singleton, Derivation.value, ihl, ihr,
      value]

/-- The parentheses of the form are the operators of the tree. -/
theorem depth_asSingle_le (t : Expression Number) : t.asSingle.depth ≤ t.height := by
  induction t with
  | leaf v => exact Nat.le_refl _
  | node op lhs rhs ihl ihr =>
    have hchain : (Derivation.chain (.ofSingle lhs.asSingle) [(op, rhs.asSingle)]).depth ≤
        max lhs.height rhs.height := by
      refine Derivation.depth_chain_le (Nat.le_trans ihl (Nat.le_max_left ..)) fun entry he => ?_
      rw [List.mem_singleton.1 he]
      exact Nat.le_trans ihr (Nat.le_max_right ..)
    exact Nat.succ_le_succ hchain

theorem tokens_asSingle (t : Expression Number) : t.asSingle.tokens = t.tokens .grouped := by
  induction t with
  | leaf v => rfl
  | node op lhs rhs ihl ihr =>
    rw [asSingle, Derivation.tokens, Derivation.tokens_chain, Derivation.tokens, ihl,
      tokens_grouped_node, ← ihr]
    simp

end Expression

namespace Infixed

/-- **The infix form of a tree has the value of the tree**, if the tree is not
higher than the limit. -/
theorem evaluate_infixed {limit : Nat} {t : Expression Number} {items : List Lexeme}
    (hs : Spells items t.infixed) (hd : t.height ≤ limit) :
    evaluate items limit = .ok t.value :=
  evaluate_eq_ok_iff.2 ⟨t.asSum, t.tokens_asSum.trans hs.symm,
    Nat.le_trans t.depth_asSum_le hd, t.value_asSum⟩

/-- The fully parenthesised form of a tree has the value of the tree, too. -/
theorem evaluate_grouped {limit : Nat} {t : Expression Number} {items : List Lexeme}
    (hs : Spells items t.grouped) (hd : t.height ≤ limit) :
    evaluate items limit = .ok t.value :=
  evaluate_eq_ok_iff.2 ⟨.ofProduct (.ofSingle t.asSingle), t.tokens_asSingle.trans hs.symm,
    Nat.le_trans t.depth_asSingle_le hd, t.value_asSingle⟩

end Infixed

end Reckoner
