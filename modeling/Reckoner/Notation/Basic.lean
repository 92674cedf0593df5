import Reckoner.Notation.Grouped
import Reckoner.Notation.Infixed
import Reckoner.Notation.Postfixed
import Reckoner.Notation.Prefixed
import Reckoner.Text.Blank
import Reckoner.Token.Stream

/-!
# Notations

The four notations that expressions are written in, their names, and the
evaluation of a text in each of them.
-/

namespace Reckoner

/-- A way of writing expressions. -/
inductive Notation where
  /-- Operators before their operands. -/
  | prefixed
  /-- Operators after their operands. -/
  | postfixed
  /-- Operators between their operands, each operation in parentheses. -/
  | grouped
  /-- Operators between their operands, with precedences. -/
  | infixed
deriving DecidableEq, Repr

namespace Notation

/-! ## Names -/

/-- The notations in the order in which they are numbered, from one on. -/
def all : List Notation := [prefixed, postfixed, grouped, infixed]

/-- The name of a notation. -/
def name : Notation → String
  | prefixed => "prefix"
  | postfixed => "postfix"
  | grouped => "parenthetical infix"
  | infixed => "infix"

/-- One and the same expression written in each notation. -/
def sample : Notation → String
  | prefixed => "+ 1 * 2 3"
  | postfixed => "1 2 3 * +"
  | grouped => "(1 + (2 * 3))"
  | infixed => "1 + 2 * 3"

/-- The notation with a number. -/
def ofNumber? (n : Int) : Option Notation :=
  if 1 ≤ n then all[(n - 1).toNat]? else none

/-- The notation a name or a number stands for; blanks around the name and the
case of its ASCII letters do not matter. -/
def ofName? (name : String) : Option Notation :=
  match folded name with
  | "1" | "prefix" => some prefixed
  | "2" | "postfix" => some postfixed
  | "3" | "paren-infix" | "paren_infix" | "parenthetical" | "parenthetical infix" => some grouped
  | "4" | "infix" => some infixed
  | _ => none

/-- The explanation given for a name that stands for no notation. -/
def unknownMessage (name : String) : String :=
  "Unknown notation `" ++ name ++ "`, expected prefix, postfix, paren-infix, infix or 1-4"

/-! ## Evaluation -/

/-- The value of a list of lexemes as an expression of the notation. -/
def evaluateItems : Notation → List Lexeme → Except Fault Number
  | prefixed, items => Prefixed.evaluate items
  | postfixed, items => Postfixed.evaluate items
  | grouped, items => Grouped.evaluate items
  | infixed, items => Infixed.evaluate items

/-- The value of a text as an expression of the notation. -/
def evaluate (n : Notation) (text : String) : Except Fault Number :=
  n.evaluateItems (tokenize text)

end Notation

end Reckoner
