import Reckoner.Token.Basic

/-!
# Arithmetic trees

A tree has operators at its nodes and operands at its leaves.  Its value is what
the operators make of the numbers at the leaves, left operand first.  A node is
named by the way that leads to it from the root.
-/

namespace Reckoner

/-- A binary tree of operators over operands of type `α`. -/
inductive Expression (α : Type) where
  | leaf (a : α)
  | node (op : Operator) (lhs rhs : Expression α)
deriving DecidableEq

/-- One of the two operands of a node. -/
inductive Side where
  | left
  | right
deriving DecidableEq, Repr

namespace Expression

variable {α β : Type}

/-- The tree with its operands replaced. -/
def map (f : α → β) : Expression α → Expression β
  | leaf a => leaf (f a)
  | node op lhs rhs => node op (lhs.map f) (rhs.map f)

/-- The value of a tree. -/
def value : Expression Number → Number
  | leaf n => n
  | node op lhs rhs => op.apply lhs.value rhs.value

/-- The largest number of operators on a way from the root to a leaf. -/
def height : Expression α → Nat
  | leaf _ => 0
  | node _ lhs rhs => max lhs.height rhs.height + 1

@[simp] theorem height_map (f : α → β) (t : Expression α) : (t.map f).height = t.height := by
  induction t with
  | leaf a => rfl
  | node op lhs rhs ihl ihr => rw [map, height, height, ihl, ihr]

/-! ## Nodes in order -/

/-- The ways to the operators of a tree, each node before its left operand and
that before its right one. -/
def nodes : Expression α → List (List Side)
  | leaf _ => []
  | node _ lhs rhs =>
    [] :: (lhs.nodes.map (Side.left :: ·) ++ rhs.nodes.map (Side.right :: ·))

/-- The first operator in this order that has `d` operators above it. -/
def firstBelow? (d : Nat) (t : Expression α) : Option (List Side) :=
  t.nodes.find? (·.length = d)

@[simp] theorem nodes_map (f : α → β) (t : Expression α) : (t.map f).nodes = t.nodes := by
  induction t with
  | leaf a => rfl
  | node op lhs rhs ihl ihr => rw [map, nodes, nodes, ihl, ihr]

@[simp] theorem firstBelow?_map (f : α → β) (d : Nat) (t : Expression α) :
    (t.map f).firstBelow? d = t.firstBelow? d := by
  rw [firstBelow?, nodes_map, firstBelow?]

theorem firstBelow?_zero (op : Operator) (lhs rhs : Expression α) :
    (node op lhs rhs).firstBelow? 0 = some [] := rfl

theorem firstBelow?_succ (d : Nat) (op : Operator) (lhs rhs : Expression α) :
    (node op lhs rhs).firstBelow? (d + 1) =
      ((lhs.firstBelow? d).map (Side.left :: ·)).or
        ((rhs.firstBelow? d).map (Side.right :: ·)) := by
  have shorter (side : Side) (paths : List (List Side)) :
      (paths.map (side :: ·)).find? (·.length = d + 1) =
        (paths.find? (·.length = d)).map (side :: ·) := by
    have hlength : ((fun path : List Side => decide (path.length = d + 1)) ∘ (side :: ·)) =
        fun path => decide (path.length = d) := by
      funext path
      simp
    rw [List.find?_map, hlength]
  rw [firstBelow?, nodes, List.find?_cons_of_neg (by simp), List.find?_append, shorter, shorter]
  rfl

/-- No operator has `d` others above it exactly when the tree is not higher
than `d`. -/
theorem firstBelow?_eq_none_iff {d : Nat} {t : Expression α} :
    t.firstBelow? d = none ↔ t.height ≤ d := by
  induction t generalizing d with
  | leaf a => simp [firstBelow?, nodes, height]
  | node op lhs rhs ihl ihr =>
    cases d with
    | zero => simp [firstBelow?_zero, height]
    | succ d =>
      rw [firstBelow?_succ, Option.or_eq_none_iff, Option.map_eq_none_iff,
        Option.map_eq_none_iff, ihl, ihr, height]
      omega

/-- In a tree too high the first operator with `d` others above it lies in the
left operand, or, when that is not too high, in the right one. -/
theorem firstBelow?_node_of_left {d : Nat} {op : Operator} {lhs rhs : Expression α}
    {path : List Side} (h : lhs.firstBelow? d = some path) :
    (node op lhs rhs).firstBelow? (d + 1) = some (.left :: path) := by
  rw [firstBelow?_succ, h]
  rfl

theorem firstBelow?_node_of_right {d : Nat} {op : Operator} {lhs rhs : Expression α}
    {path : List Side} (hl : lhs.height ≤ d) (h : rhs.firstBelow? d = some path) :
    (node op lhs rhs).firstBelow? (d + 1) = some (.right :: path) := by
  rw [firstBelow?_succ, firstBelow?_eq_none_iff.2 hl, h]
  rfl

end Expression

end Reckoner
