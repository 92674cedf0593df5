import Reckoner.Notation.Basic
import Reckoner.Proofs.Expression.Basic

/-!
# Written forms of arithmetic trees

A tree is written as a list of pieces, one way for each notation.  In the prefix
and the grouped form every piece is kept together with the way to the node it is
written for, so that a place in the list can be traced back to the tree.

The infix form has parentheses only where the grammar needs them: around an
additive left operand of any operator, and around every compound right operand
of a multiplicative one.
-/

namespace Reckoner

/-- A word of a written tree whose operands are of type `α`. -/
inductive Piece (α : Type) where
  | operand (a : α)
  | operator (op : Operator)
  | leftParen
  | rightParen
deriving DecidableEq

namespace Piece

variable {α β : Type}

/-- The piece with its operand replaced. -/
def map (f : α → β) : Piece α → Piece β
  | operand a => operand (f a)
  | operator op => operator op
  | leftParen => leftParen
  | rightParen => rightParen

/-- The token that stands for a piece. -/
def token : Piece Number → Token
  | operand n => .number n
  | operator op => .operator op
  | leftParen => .leftParen
  | rightParen => .rightParen

end Piece

namespace Expression

variable {α β : Type}

/-! ## Forms that remember their nodes -/

/-- Pieces of an operand, seen from the node it belongs to. -/
def under (side : Side) (pieces : List (List Side × Piece α)) : List (List Side × Piece α) :=
  pieces.map fun (path, piece) => (side :: path, piece)

/-- The prefix form, each piece with the way to its node. -/
def prefixedAt : Expression α → List (List Side × Piece α)
  | leaf a => [([], .operand a)]
  | node op lhs rhs =>
    ([], .operator op) :: (under .left lhs.prefixedAt ++ under .right rhs.prefixedAt)

/-- The fully parenthesised form, each piece with the way to its node. -/
def groupedAt : Expression α → List (List Side × Piece α)
  | leaf a => [([], .operand a)]
  | node op lhs rhs =>
    ([], .leftParen) :: (under .left lhs.groupedAt ++
      ([], .operator op) :: (under .right rhs.groupedAt ++ [([], .rightParen)]))

/-! ## The four forms -/

/-- Whether the root is an additive operator. -/
def isAdditive : Expression α → Bool
  | leaf _ => false
  | node op _ _ => op.precedence = .additive

/-- Whether the root is an operator. -/
def isCompound : Expression α → Bool
  | leaf _ => false
  | node .. => true

/-- Pieces with parentheses around them, if they are `needed`. -/
def enclosed (needed : Bool) (pieces : List (Piece α)) : List (Piece α) :=
  if needed then .leftParen :: (pieces ++ [.rightParen]) else pieces

/-- Operators before their operands. -/
def prefixed (t : Expression α) : List (Piece α) := t.prefixedAt.map Prod.snd

/-- Operators after their operands. -/
def postfixed : Expression α → List (Piece α)
  | leaf a => [.operand a]
  | node op lhs rhs => lhs.postfixed ++ (rhs.postfixed ++ [.operator op])

/-- Every operation in parentheses of its own. -/
def grouped (t : Expression α) : List (Piece α) := t.groupedAt.map Prod.snd

/-- Parentheses only where precedence and grouping need them. -/
def infixed : Expression α → List (Piece α)
  | leaf a => [.operand a]
  | node op lhs rhs =>
    enclosed lhs.isAdditive lhs.infixed ++
      .operator op :: enclosed (op.precedence = .multiplicative && rhs.isCompound) rhs.infixed

/-- The form of a tree in a notation. -/
def written : Notation → Expression α → List (Piece α)
  | .prefixed => prefixed
  | .postfixed => postfixed
  | .grouped => grouped
  | .infixed => infixed

/-! ## Laws -/

@[simp] theorem map_snd_under (side : Side) (pieces : List (List Side × Piece α)) :
    (under side pieces).map Prod.snd = pieces.map Prod.snd := by
  rw [under, List.map_map]
  rfl

@[simp] theorem length_under (side : Side) (pieces : List (List Side × Piece α)) :
    (under side pieces).length = pieces.length := List.length_map _

/-- A piece of an operand keeps its neighbour when it is seen from the node. -/
theorem mem_zip_under {γ : Type} (side : Side) {path : List Side} {piece : Piece α} {x : γ}
    {pieces : List (List Side × Piece α)} {xs : List γ} (h : ((path, piece), x) ∈ pieces.zip xs) :
    ((side :: path, piece), x) ∈ (under side pieces).zip xs := by
  rw [under, List.zip_map_left]
  exact List.mem_map.2 ⟨_, h, rfl⟩

@[simp] theorem prefixed_node (op : Operator) (lhs rhs : Expression α) :
    (node op lhs rhs).prefixed = .operator op :: (lhs.prefixed ++ rhs.prefixed) := by
  simp [prefixed, prefixedAt]

@[simp] theorem grouped_node (op : Operator) (lhs rhs : Expression α) :
    (node op lhs rhs).grouped =
      .leftParen :: (lhs.grouped ++ .operator op :: (rhs.grouped ++ [.rightParen])) := by
  simp [grouped, groupedAt]

@[simp] theorem length_prefixedAt (t : Expression α) :
    t.prefixedAt.length = t.prefixed.length := by
  rw [prefixed, List.length_map]

@[simp] theorem length_groupedAt (t : Expression α) : t.groupedAt.length = t.grouped.length := by
  rw [grouped, List.length_map]

theorem under_map (f : α → β) (side : Side) (pieces : List (List Side × Piece α)) :
    under side (pieces.map (Prod.map id (Piece.map f))) =
      (under side pieces).map (Prod.map id (Piece.map f)) := by
  simp [under, Function.comp_def]

theorem prefixedAt_map (f : α → β) (t : Expression α) :
    (t.map f).prefixedAt = t.prefixedAt.map (Prod.map id (Piece.map f)) := by
  induction t with
  | leaf a => rfl
  | node op lhs rhs ihl ihr => simp [map, prefixedAt, ihl, ihr, under_map, Piece.map]

theorem groupedAt_map (f : α → β) (t : Expression α) :
    (t.map f).groupedAt = t.groupedAt.map (Prod.map id (Piece.map f)) := by
  induction t with
  | leaf a => rfl
  | node op lhs rhs ihl ihr => simp [map, groupedAt, ihl, ihr, under_map, Piece.map]

theorem enclosed_map (f : α → β) (needed : Bool) (pieces : List (Piece α)) :
    enclosed needed (pieces.map (Piece.map f)) = (enclosed needed pieces).map (Piece.map f) := by
  cases needed <;> simp [enclosed, Piece.map]

theorem isAdditive_map (f : α → β) (t : Expression α) : (t.map f).isAdditive = t.isAdditive := by
  cases t <;> rfl

theorem isCompound_map (f : α → β) (t : Expression α) : (t.map f).isCompound = t.isCompound := by
  cases t <;> rfl

/-- Replacing the operands of a tree replaces them in its written forms. -/
theorem written_map (f : α → β) (n : Notation) (t : Expression α) :
    (t.map f).written n = (t.written n).map (Piece.map f) := by
  cases n with
  | prefixed => simp [written, prefixed, prefixedAt_map, Function.comp_def]
  | grouped => simp [written, grouped, groupedAt_map, Function.comp_def]
  | postfixed =>
    induction t with
    | leaf a => rfl
    | node op lhs rhs ihl ihr =>
      simp only [written] at ihl ihr ⊢
      simp [map, postfixed, ihl, ihr, Piece.map]
  | infixed =>
    induction t with
    | leaf a => rfl
    | node op lhs rhs ihl ihr =>
      simp only [written] at ihl ihr ⊢
      simp [map, infixed, ihl, ihr, enclosed_map, isAdditive_map, isCompound_map, Piece.map]

/-! ## Tokens -/

/-- The tokens of the form of a tree in a notation. -/
def tokens (n : Notation) (t : Expression Number) : List Token := (t.written n).map Piece.token

section

variable (op : Operator) (lhs rhs : Expression Number)

theorem tokens_prefixed_node : (node op lhs rhs).tokens .prefixed =
    .operator op :: (lhs.tokens .prefixed ++ rhs.tokens .prefixed) := by
  simp [tokens, written, Piece.token]

theorem tokens_postfixed_node : (node op lhs rhs).tokens .postfixed =
    lhs.tokens .postfixed ++ (rhs.tokens .postfixed ++ [.operator op]) := by
  simp [tokens, written, postfixed, Piece.token]

theorem tokens_grouped_node : (node op lhs rhs).tokens .grouped =
    .leftParen :: (lhs.tokens .grouped ++
      .operator op :: (rhs.tokens .grouped ++ [.rightParen])) := by
  simp [tokens, written, Piece.token]

end

end Expression

/-! ## Lexemes that spell pieces -/

/-- The tokens of the lexemes are those of the pieces, one for one. -/
def Spells (items : List Lexeme) (pieces : List (Piece Number)) : Prop :=
  items.map Lexeme.token = pieces.map Piece.token

namespace Spells

variable {items : List Lexeme} {piece : Piece Number} {pieces more : List (Piece Number)}

theorem length_eq (h : Spells items pieces) : items.length = pieces.length := by
  have hl := congrArg List.length h
  rwa [List.length_map, List.length_map] at hl

theorem eq_nil (h : Spells items []) : items = [] := List.map_eq_nil_iff.1 h

theorem of_cons (h : Spells items (piece :: pieces)) :
    ∃ span rest, items = ⟨piece.token, span⟩ :: rest ∧ Spells rest pieces := by
  obtain ⟨⟨token, span⟩, rest, rfl, ht, hr⟩ := List.map_eq_cons_iff.1 h
  exact ⟨span, rest, congrArg (fun token => ⟨token, span⟩ :: rest) ht, hr⟩

theorem of_append (h : Spells items (pieces ++ more)) :
    ∃ front back, items = front ++ back ∧ Spells front pieces ∧ Spells back more := by
  rw [Spells, List.map_append] at h
  exact List.map_eq_append_iff.1 h

theorem of_prefixed_leaf {v : Number} (h : Spells items (Expression.leaf v).prefixed) :
    ∃ span, items = [⟨.number v, span⟩] := by
  obtain ⟨span, rest, rfl, hr⟩ := h.of_cons
  exact ⟨span, by rw [hr.eq_nil]; rfl⟩

theorem of_prefixed_node {op : Operator} {lhs rhs : Expression Number}
    (h : Spells items (Expression.node op lhs rhs).prefixed) :
    ∃ span left right, items = ⟨.operator op, span⟩ :: (left ++ right) ∧
      Spells left lhs.prefixed ∧ Spells right rhs.prefixed := by
  rw [Expression.prefixed_node] at h
  obtain ⟨span, rest, rfl, hr⟩ := h.of_cons
  obtain ⟨left, right, rfl, hl, hr⟩ := hr.of_append
  exact ⟨span, left, right, rfl, hl, hr⟩

theorem of_grouped_leaf {v : Number} (h : Spells items (Expression.leaf v).grouped) :
    ∃ span, items = [⟨.number v, span⟩] := by
  obtain ⟨span, rest, rfl, hr⟩ := h.of_cons
  exact ⟨span, by rw [hr.eq_nil]; rfl⟩

theorem of_grouped_node {op : Operator} {lhs rhs : Expression Number}
    (h : Spells items (Expression.node op lhs rhs).grouped) :
    ∃ opened left middle right closed,
      items = ⟨.leftParen, opened⟩ :: (left ++ ⟨.operator op, middle⟩ ::
        (right ++ [⟨.rightParen, closed⟩])) ∧
      Spells left lhs.grouped ∧ Spells right rhs.grouped := by
  rw [Expression.grouped_node] at h
  obtain ⟨opened, inside, rfl, hi⟩ := h.of_cons
  obtain ⟨left, afterLeft, rfl, hl, ha⟩ := hi.of_append
  obtain ⟨middle, afterOp, rfl, ho⟩ := ha.of_cons
  obtain ⟨right, last, rfl, hr, hc⟩ := ho.of_append
  obtain ⟨closed, none, rfl, hn⟩ := hc.of_cons
  exact ⟨opened, left, middle, right, closed, by rw [hn.eq_nil]; rfl, hl, hr⟩

/-! ### Lexemes of the operands of a node -/

section

variable {op : Operator} {lhs rhs : Expression Number} {path : List Side}
  {first middle last item : Lexeme} {left right : List Lexeme}

theorem zip_prefixedAt (hl : Spells left lhs.prefixed) :
    (Expression.node op lhs rhs).prefixedAt.zip (first :: (left ++ right)) =
      (([], .operator op), first) :: ((Expression.under .left lhs.prefixedAt).zip left ++
        (Expression.under .right rhs.prefixedAt).zip right) := by
  have hlength : (Expression.under .left lhs.prefixedAt).length = left.length := by
    rw [Expression.length_under, Expression.length_prefixedAt, hl.length_eq]
  rw [Expression.prefixedAt, List.zip_cons_cons, List.zip_append hlength]

theorem mem_zip_prefixedAt_left (hl : Spells left lhs.prefixed)
    (h : ((path, piece), item) ∈ lhs.prefixedAt.zip left) :
    ((.left :: path, piece), item) ∈
      (Expression.node op lhs rhs).prefixedAt.zip (first :: (left ++ right)) := by
  have hunder := Expression.mem_zip_under Side.left h
  rw [zip_prefixedAt hl]
  exact List.mem_cons_of_mem _ (List.mem_append_left _ hunder)

theorem mem_zip_prefixedAt_right (hl : Spells left lhs.prefixed)
    (h : ((path, piece), item) ∈ rhs.prefixedAt.zip right) :
    ((.right :: path, piece), item) ∈
      (Expression.node op lhs rhs).prefixedAt.zip (first :: (left ++ right)) := by
  have hunder := Expression.mem_zip_under Side.right h
  rw [zip_prefixedAt hl]
  exact List.mem_cons_of_mem _ (List.mem_append_right _ hunder)

theorem zip_groupedAt (hl : Spells left lhs.grouped) (hr : Spells right rhs.grouped) :
    (Expression.node op lhs rhs).groupedAt.zip
        (first :: (left ++ middle :: (right ++ [last]))) =
      (([], .leftParen), first) :: ((Expression.under .left lhs.groupedAt).zip left ++
        (([], .operator op), middle) :: ((Expression.under .right rhs.groupedAt).zip right ++
          [(([], .rightParen), last)])) := by
  have hleft : (Expression.under .left lhs.groupedAt).length = left.length := by
    rw [Expression.length_under, Expression.length_groupedAt, hl.length_eq]
  have hright : (Expression.under .right rhs.groupedAt).length = right.length := by
    rw [Expression.length_under, Expression.length_groupedAt, hr.length_eq]
  rw [Expression.groupedAt, List.zip_cons_cons, List.zip_append hleft, List.zip_cons_cons,
    List.zip_append hright]
  rfl

theorem mem_zip_groupedAt_left (hl : Spells left lhs.grouped) (hr : Spells right rhs.grouped)
    (h : ((path, piece), item) ∈ lhs.groupedAt.zip left) :
    ((.left :: path, piece), item) ∈ (Expression.node op lhs rhs).groupedAt.zip
      (first :: (left ++ middle :: (right ++ [last]))) := by
  have hunder := Expression.mem_zip_under Side.left h
  rw [zip_groupedAt hl hr]
  exact List.mem_cons_of_mem _ (List.mem_append_left _ hunder)

theorem mem_zip_groupedAt_right (hl : Spells left lhs.grouped) (hr : Spells right rhs.grouped)
    (h : ((path, piece), item) ∈ rhs.groupedAt.zip right) :
    ((.right :: path, piece), item) ∈ (Expression.node op lhs rhs).groupedAt.zip
      (first :: (left ++ middle :: (right ++ [last]))) := by
  have hunder := Expression.mem_zip_under Side.right h
  rw [zip_groupedAt hl hr]
  have hinner := List.mem_append_left [(([], Piece.rightParen), last)] hunder
  exact List.mem_cons_of_mem _ (List.mem_append_right _ (List.mem_cons_of_mem _ hinner))

end

end Spells

end Reckoner
