import Reckoner.Cursor.Basic

/-!
# Prefix expressions

An expression is a number, or an operator followed by two expressions:

    Expression := Number | Operator Expression Expression

An operator opens a level that holds both of its operands.
-/

namespace Reckoner.Prefixed

open Reading

/-- Reads one expression.  `bound` is at least the number of lexemes ahead; an
expression takes at least one of them. -/
def expression (limit : Nat) : (bound : Nat) → Reading Number
  | 0 => throw .unexpectedEnd
  | bound + 1 => do
    let item ← nextItem
    match item.token with
    | .number n => return n
    | .operator op =>
      nested limit item.span do
        let lhs ← expression limit bound
        let rhs ← expression limit bound
        return op.apply lhs rhs
    | token => throw (.unexpectedToken token item.span)

/-- The value of a prefix expression. -/
def evaluate (items : List Lexeme) (limit : Nat := defaultLimit) : Except Fault Number :=
  Reading.evaluate (expression limit items.length) items

end Reckoner.Prefixed
