import Reckoner.Cursor.Basic

/-!
# Infix expressions

Operators stand between their operands, and parentheses are written only where
they are needed.  An operand is a number, a minus sign and an operand, or a
group; operands and operators alternate in a chain, which ends with the text or
with the parenthesis that closes its group:

    Operand := Number | '-' Operand | '(' Chain
    Chain   := Operand (Operator Operand)* (end | ')')

A multiplicative operator takes the single operand after it.  An additive
operator takes everything after it in the same group, so the additive operators
of a chain are applied from the last to the first.  Only minus signs and groups
open a level.
-/

namespace Reckoner.Infixed

open Reading

/-- Applies the additive operators that wait for their right operand, the one
read last first, to the value read after them. -/
def settle (waiting : List (Number × Operator)) (value : Number) : Number :=
  waiting.foldl (fun rhs (lhs, op) => op.apply lhs rhs) value

/-- Reads the rest of a chain.  `value` is the product read last, and `waiting`
holds the products before it with the additive operators after them, the last
one first.  `bound` is at least the number of lexemes ahead. -/
def chainRest (operand : Reading Number) :
    (bound : Nat) → (waiting : List (Number × Operator)) → (value : Number) → Reading Number
  | 0, waiting, value => return settle waiting value
  | bound + 1, waiting, value => do
    match ← advance with
    | none => return settle waiting value
    | some item =>
      match item.token with
      | .rightParen => do
        closeGroup item.span
        return settle waiting value
      | .operator op => do
        let next ← operand
        match op.precedence with
        | .additive => chainRest operand bound ((value, op) :: waiting) next
        | .multiplicative => chainRest operand bound waiting (op.apply value next)
      | token => throw (.unexpectedToken token item.span)

/-- Reads a chain whose operands are read by `operand`. -/
def chain (operand : Reading Number) (bound : Nat) : Reading Number := do
  let first ← operand
  chainRest operand bound [] first

/-- Reads one operand.  `bound` is at least the number of lexemes ahead; an
operand takes at least one of them. -/
def operand (limit : Nat) : (bound : Nat) → Reading Number
  | 0 => throw .unexpectedEnd
  | bound + 1 => do
    let item ← nextItem
    match item.token with
    | .number n => return n
    | .operator .sub => do
      let value ← nested limit item.span (operand limit bound)
      return -value
    | .leftParen => do
      openGroup
      nested limit item.span (chain (operand limit bound) bound)
    | token => throw (.unexpectedToken token item.span)

/-- The value of an infix expression. -/
def evaluate (items : List Lexeme) (limit : Nat := defaultLimit) : Except Fault Number :=
  Reading.evaluate (chain (operand limit items.length) items.length) items

end Reckoner.Infixed
