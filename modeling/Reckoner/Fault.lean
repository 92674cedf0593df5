import Reckoner.Token.Basic

/-!
# Faults

A fault is the reason why a text is not an expression of the notation it was
read in.  Most faults lie at a token and carry its span; the others concern the
expression as a whole.
-/

namespace Reckoner

/-- The reason why an expression is refused. -/
inductive Fault where
  /-- There is no token at all. -/
  | empty
  /-- The tokens end where another one is needed. -/
  | unexpectedEnd
  /-- A token stands where it cannot stand. -/
  | unexpectedToken (token : Token) (span : Span)
  /-- An operator comes before two operands are there for it. -/
  | insufficientOperands (op : Operator) (span : Span)
  /-- Operands are left over without an operator to join them. -/
  | wrongOperandCount (count : Nat)
  /-- A closing parenthesis has no opening one. -/
  | unbalancedParen (span : Span)
  /-- Opening parentheses have no closing one. -/
  | unclosedParen (count : Nat)
  /-- A token would open one level more than may be open. -/
  | tooDeep (span : Span)
  /-- A token follows a complete expression. -/
  | unfinished (token : Token) (span : Span)
deriving DecidableEq

namespace Fault

/-- The place a fault points at, if it has one. -/
def span? : Fault → Option Span
  | unexpectedToken _ s | insufficientOperands _ s | unbalancedParen s | tooDeep s
  | unfinished _ s => some s
  | empty | unexpectedEnd | wrongOperandCount _ | unclosedParen _ => none

/-- The explanation of a fault. -/
def message : Fault → String
  | empty => "Expression is empty"
  | unexpectedEnd => "Expression ended while more input was expected"
  | unexpectedToken t s => "Unexpected token `" ++ t.text ++ "` at position " ++ s.text
  | insufficientOperands op s =>
    "Operator `" ++ (Token.operator op).text ++ "` at position " ++ s.text ++
      " does not have two operands"
  | wrongOperandCount n => "Expression leaves " ++ natText n ++ " operands instead of one"
  | unbalancedParen s =>
    "Closing parenthesis at position " ++ s.text ++ " has no matching opening parenthesis"
  | unclosedParen n => natText n ++ " opening parenthesis are never closed"
  | tooDeep s => "Expression nests deeper than the supported limit at position " ++ s.text
  | unfinished t s => "Parse have leftover tokens start with `" ++ t.text ++ "` at " ++ s.text

end Fault

end Reckoner
