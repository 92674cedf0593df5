import Reckoner.Fault
import Reckoner.Stack

/-!
# Postfix expressions

An expression is a number, or two expressions followed by an operator.  Numbers
are put on a stack; an operator replaces the two topmost elements, of which the
top one is its right operand, by its value.  At the end a single element has to
be left.
-/

namespace Reckoner.Postfixed

/-- What one lexeme does to the stack of operands. -/
def step (operands : Stack Number) (item : Lexeme) : Except Fault (Stack Number) :=
  match item.token with
  | .number n => .ok (operands.push n)
  | .operator op =>
    match operands.popPair? with
    | some (lhs, rhs, below) => .ok (below.push (op.apply lhs rhs))
    | none => .error (.insufficientOperands op item.span)
  | token => .error (.unexpectedToken token item.span)

/-- What a list of lexemes does to the stack of operands, up to the first
fault. -/
def run (operands : Stack Number) : List Lexeme → Except Fault (Stack Number)
  | [] => .ok operands
  | item :: items =>
    match step operands item with
    | .ok operands => run operands items
    | .error fault => .error fault

/-- The value that the final stack holds. -/
def result (operands : Stack Number) : Except Fault Number :=
  match operands.single with
  | .ok value => .ok value
  | .error 0 => .error .empty
  | .error count => .error (.wrongOperandCount count)

/-- The value of a postfix expression. -/
def evaluate (items : List Lexeme) : Except Fault Number :=
  match run .empty items with
  | .ok operands => result operands
  | .error fault => .error fault

end Reckoner.Postfixed
