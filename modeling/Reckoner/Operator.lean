import Reckoner.Number.Basic

/-!
# Operators

The four binary operators, the two levels they bind at, and what they do to
numbers.
-/

namespace Reckoner

/-- A binary operator. -/
inductive Operator where
  | add
  | sub
  | mul
  | div
deriving DecidableEq, Repr

/-- How tightly an operator binds. -/
inductive Precedence where
  | additive
  | multiplicative
deriving DecidableEq, Repr

namespace Precedence

/-- Whether operators of the first precedence bind tighter than those of the
second. -/
def tighterThan : Precedence → Precedence → Bool
  | multiplicative, additive => true
  | _, _ => false

end Precedence

namespace Operator

/-- The operator a character stands for. -/
def ofChar? : Char → Option Operator
  | '+' => some add
  | '-' => some sub
  | '*' => some mul
  | '/' => some div
  | _ => none

/-- The character that stands for an operator. -/
def symbol : Operator → Char
  | add => '+'
  | sub => '-'
  | mul => '*'
  | div => '/'

/-- Multiplication and division bind tighter than addition and subtraction. -/
def precedence : Operator → Precedence
  | add | sub => .additive
  | mul | div => .multiplicative

/-- The value of an operator at two operands. -/
def apply : Operator → Number → Number → Number
  | add, a, b => a + b
  | sub, a, b => a - b
  | mul, a, b => a * b
  | div, a, b => a / b

/-- Reading the symbol of an operator gives the operator. -/
@[simp] theorem ofChar?_symbol (op : Operator) : ofChar? op.symbol = some op := by
  cases op <;> rfl

end Operator

end Reckoner
