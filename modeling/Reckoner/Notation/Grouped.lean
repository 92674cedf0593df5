import Reckoner.Cursor.Basic

/-!
# Fully parenthesised expressions

An expression is a number, or two expressions joined by an operator inside
parentheses of their own:

    Expression := Number | '(' Expression Operator Expression ')'

A parenthesis opens a level that ends with its closing parenthesis.
-/

namespace Reckoner.Grouped

open Reading

/-- Reads one expression.  `bound` is at least the number of lexemes ahead; an
expression takes at least one of them. -/
def expression (limit : Nat) : (bound : Nat) → Reading Number
  | 0 => throw .unexpectedEnd
  | bound + 1 => do
    let item ← nextItem
    match item.token with
    | .number n => return n
    | .leftParen =>
      nested limit item.span do
        let lhs ← expression limit bound
        let op ← expectOperator
        let rhs ← expression limit bound
        let _ ← expectToken .rightParen
        return op.apply lhs rhs
    | token => throw (.unexpectedToken token item.span)

/-- The value of a fully parenthesised expression. -/
def evaluate (items : List Lexeme) (limit : Nat := defaultLimit) : Except Fault Number :=
  Reading.evaluate (expression limit items.length) items

end Reckoner.Grouped
