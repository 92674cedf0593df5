import Reckoner.Token.Basic

/-!
# The grammar of infix expressions

    Sum     := Product | Product Additive Sum
    Product := Single | Product Multiplicative Single
    Single  := Number | '-' Single | '(' Sum ')'

A derivation is a tree over these rules; the category of its root is part of its
type, so that only what the grammar derives can be built.  Multiplicative
operators group to the left, additive ones to the right, and a minus sign takes
a single operand.
-/

namespace Reckoner.Infixed

/-- What a phrase is. -/
inductive Category where
  | single
  | product
  | sum
deriving DecidableEq, Repr

/-- The operators `+` and `-`. -/
abbrev Additive := { op : Operator // op.precedence = .additive }

/-- The operators `*` and `/`. -/
abbrev Multiplicative := { op : Operator // op.precedence = .multiplicative }

/-- A derivation of a phrase. -/
inductive Derivation : Category → Type where
  | number (v : Number) : Derivation .single
  | minus (operand : Derivation .single) : Derivation .single
  | group (body : Derivation .sum) : Derivation .single
  | ofSingle (operand : Derivation .single) : Derivation .product
  | times (lhs : Derivation .product) (op : Multiplicative) (rhs : Derivation .single) :
      Derivation .product
  | ofProduct (operand : Derivation .product) : Derivation .sum
  | plus (lhs : Derivation .product) (op : Additive) (rhs : Derivation .sum) : Derivation .sum

namespace Derivation

variable {k : Category}

/-- The phrase that is derived. -/
def tokens {k : Category} : Derivation k → List Token
  | number v => [.number v]
  | minus t => .operator .sub :: t.tokens
  | group t => .leftParen :: (t.tokens ++ [.rightParen])
  | ofSingle t => t.tokens
  | times lhs op rhs => lhs.tokens ++ .operator op.1 :: rhs.tokens
  | ofProduct t => t.tokens
  | plus lhs op rhs => lhs.tokens ++ .operator op.1 :: rhs.tokens

/-- The value of a phrase: each operator applied to its two operands, each minus
sign to its one. -/
def value {k : Category} : Derivation k → Number
  | number v => v
  | minus t => -t.value
  | group t => t.value
  | ofSingle t => t.value
  | times lhs op rhs => op.1.apply lhs.value rhs.value
  | ofProduct t => t.value
  | plus lhs op rhs => op.1.apply lhs.value rhs.value

/-- The largest number of parentheses and minus signs that are open at one
token; a minus sign is open until its operand is complete. -/
def depth {k : Category} : Derivation k → Nat
  | number _ => 0
  | minus t => t.depth + 1
  | group t => t.depth + 1
  | ofSingle t => t.depth
  | times lhs _ rhs => max lhs.depth rhs.depth
  | ofProduct t => t.depth
  | plus lhs _ rhs => max lhs.depth rhs.depth

/-- The number of parentheses and minus signs open at each token, with `n` of
them open around the phrase; a token that opens a level is inside of it. -/
def openLevels {k : Category} (n : Nat) : Derivation k → List Nat
  | number _ => [n]
  | minus t => (n + 1) :: t.openLevels (n + 1)
  | group t => (n + 1) :: (t.openLevels (n + 1) ++ [n + 1])
  | ofSingle t => t.openLevels n
  | times lhs _ rhs => lhs.openLevels n ++ n :: rhs.openLevels n
  | ofProduct t => t.openLevels n
  | plus lhs _ rhs => lhs.openLevels n ++ n :: rhs.openLevels n

/-- An operand after `n` minus signs. -/
def signed : (n : Nat) → Derivation .single → Derivation .single
  | 0, t => t
  | n + 1, t => signed n (minus t)

theorem tokens_signed (n : Nat) (t : Derivation .single) :
    (signed n t).tokens = List.replicate n (.operator .sub) ++ t.tokens := by
  induction n generalizing t with
  | zero => rfl
  | succ n ih =>
    rw [signed, ih, tokens, List.replicate_succ', List.append_assoc]
    rfl

theorem length_openLevels (n : Nat) (t : Derivation k) :
    (t.openLevels n).length = t.tokens.length := by
  induction t generalizing n with
  | number v => rfl
  | minus t ih => simp [openLevels, tokens, ih]
  | group t ih => simp [openLevels, tokens, ih]
  | ofSingle t ih => exact ih n
  | times lhs op rhs ihl ihr => simp [openLevels, tokens, ihl, ihr]
  | ofProduct t ih => exact ih n
  | plus lhs op rhs ihl ihr => simp [openLevels, tokens, ihl, ihr]

/-- The depth is the largest number of levels open at a token. -/
theorem forall_openLevels_le_iff {n limit : Nat} {t : Derivation k} :
    (∀ l ∈ t.openLevels n, l ≤ limit) ↔ n + t.depth ≤ limit := by
  induction t generalizing n with
  | number v => simp [openLevels, depth]
  | minus t ih =>
    simp only [openLevels, depth, List.forall_mem_cons, ih]
    omega
  | group t ih =>
    simp only [openLevels, depth, List.forall_mem_cons, List.forall_mem_append, ih,
      List.not_mem_nil, false_implies, implies_true, and_true]
    omega
  | ofSingle t ih => exact ih
  | times lhs op rhs ihl ihr =>
    simp only [openLevels, depth, List.forall_mem_cons, List.forall_mem_append, ihl, ihr]
    omega
  | ofProduct t ih => exact ih
  | plus lhs op rhs ihl ihr =>
    simp only [openLevels, depth, List.forall_mem_cons, List.forall_mem_append, ihl, ihr]
    omega

/-! ## Chains -/

/-- A product and operands that operators join to it, one after the other. -/
def chain : Derivation .product → List (Operator × Derivation .single) → Derivation .sum
  | t, [] => ofProduct t
  | t, (op, next) :: more =>
    match h : op.precedence with
    | .additive => plus t ⟨op, h⟩ (chain (ofSingle next) more)
    | .multiplicative => chain (times t ⟨op, h⟩ next) more

section

variable {op : Operator} (t : Derivation .product) (next : Derivation .single)
  (more : List (Operator × Derivation .single))

theorem chain_additive (h : op.precedence = .additive) :
    chain t ((op, next) :: more) = plus t ⟨op, h⟩ (chain (ofSingle next) more) := by
  cases op <;> first | rfl | cases h

theorem chain_multiplicative (h : op.precedence = .multiplicative) :
    chain t ((op, next) :: more) = chain (times t ⟨op, h⟩ next) more := by
  cases op <;> first | rfl | cases h

end

theorem value_chain_singleton (t : Derivation .product) (op : Operator)
    (next : Derivation .single) : (chain t [(op, next)]).value = op.apply t.value next.value := by
  cases op <;> rfl

theorem tokens_chain (t : Derivation .product) (more : List (Operator × Derivation .single)) :
    (chain t more).tokens =
      t.tokens ++ more.flatMap fun (op, next) => .operator op :: next.tokens := by
  induction more generalizing t with
  | nil => exact (List.append_nil _).symm
  | cons entry more ih =>
    obtain ⟨op, next⟩ := entry
    cases h : op.precedence with
    | additive =>
      rw [chain_additive t next more h, tokens, ih, tokens]
      rfl
    | multiplicative =>
      rw [chain_multiplicative t next more h, ih, tokens]
      simp

/-- A chain opens no levels but those of its operands, however long it is. -/
theorem depth_chain_le {limit : Nat} {t : Derivation .product}
    {more : List (Operator × Derivation .single)} (ht : t.depth ≤ limit)
    (hmore : ∀ entry ∈ more, entry.2.depth ≤ limit) : (chain t more).depth ≤ limit := by
  induction more generalizing t with
  | nil => exact ht
  | cons entry more ih =>
    obtain ⟨op, next⟩ := entry
    obtain ⟨hnext, hmore⟩ := List.forall_mem_cons.1 hmore
    cases h : op.precedence with
    | additive =>
      rw [chain_additive t next more h]
      exact Nat.max_le.2 ⟨ht, ih hnext hmore⟩
    | multiplicative =>
      rw [chain_multiplicative t next more h]
      exact ih (Nat.max_le.2 ⟨ht, hnext⟩) hmore

end Derivation

end Reckoner.Infixed
