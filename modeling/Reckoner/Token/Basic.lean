import Reckoner.Number.Text
import Reckoner.Operator
import Reckoner.Span

/-!
# Tokens

Tokens are the words that expressions are made of in every notation.  A lexeme
is a token together with the place in the text where it was read.
-/

namespace Reckoner

/-- A word of an expression. -/
inductive Token where
  | leftParen
  | rightParen
  | operator (op : Operator)
  | number (n : Number)
deriving DecidableEq

namespace Token

/-- The characters a token is written with. -/
def chars : Token → List Char
  | leftParen => ['(']
  | rightParen => [')']
  | operator op => [op.symbol]
  | number n => n.chars

/-- The text of a token. -/
def text (t : Token) : String := String.ofList t.chars

/-- Two tokens agree when they are the same parenthesis or operator, or numbers
that agree. -/
def agrees : Token → Token → Bool
  | number a, number b => a.agrees b
  | s, t => s = t

/-- The parenthesis or operator a character stands for. -/
def ofChar? : Char → Option Token
  | '(' => some leftParen
  | ')' => some rightParen
  | c => (Operator.ofChar? c).map operator

end Token

/-- A token and the span of the text it was read from. -/
structure Lexeme where
  token : Token
  span : Span
deriving DecidableEq

end Reckoner
