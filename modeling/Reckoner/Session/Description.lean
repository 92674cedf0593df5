import Reckoner.Fault
import Reckoner.Settings.Basic
import Reckoner.Text.Quoted

/-!
# Descriptions

A description shows a value with its kind and the names of its parts.  It is
meant for whoever looks after the program, not for whoever types expressions.
-/

namespace Reckoner

/-! ## Values of any kind -/

/-- The description of a value that may be missing. -/
def describeOption {α : Type} (describe : α → String) : Option α → String
  | none => "None"
  | some a => "Some(" ++ describe a ++ ")"

/-- The description of several values in order. -/
def describeList {α : Type} (describe : α → String) (values : List α) : String :=
  "[" ++ ", ".intercalate (values.map describe) ++ "]"

/-- The description of a truth value. -/
def describeBool (b : Bool) : String := if b then "true" else "false"

/-! ## Faults -/

/-- The description of a span. -/
def Span.describe (s : Span) : String :=
  "Span \x7b start: " ++ natText s.first ++ ", end: " ++ natText s.last ++ " \x7d"

/-- The description of an operator. -/
def Operator.describe : Operator → String
  | add => "Plus"
  | sub => "Minus"
  | mul => "Star"
  | div => "Slash"

/-- The description of a token. -/
def Token.describe : Token → String
  | leftParen => "LeftParen"
  | rightParen => "RightParen"
  | operator op => "Operator(" ++ op.describe ++ ")"
  | number n => "Number(" ++ n.describe ++ ")"

/-- The description of a fault in an expression. -/
def Fault.describe : Fault → String
  | empty => "Empty"
  | unexpectedEnd => "UnexpectedEnd"
  | unexpectedToken t s => "UnexpectedToken(" ++ t.describe ++ ", " ++ s.describe ++ ")"
  | insufficientOperands op s =>
    "InsufficientOperands(" ++ op.describe ++ ", " ++ s.describe ++ ")"
  | wrongOperandCount n => "WrongOperandCount(" ++ natText n ++ ")"
  | unbalancedParen s => "UnbalancedParen(" ++ s.describe ++ ")"
  | unclosedParen n => "UnclosedParen(" ++ natText n ++ ")"
  | tooDeep s => "TooDeep(" ++ s.describe ++ ")"
  | unfinished t s => "Unfinished(" ++ t.describe ++ ", " ++ s.describe ++ ")"

/-! ## Settings -/

/-- The description of a notation. -/
def Notation.describe : Notation → String
  | prefixed => "Prefix"
  | postfixed => "Postfix"
  | grouped => "ParenInfix"
  | infixed => "Infix"

/-- The description of settings. -/
def Settings.describe (settings : Settings) : String :=
  "Config \x7b notation: " ++ describeOption Notation.describe settings.fixedNotation ++
    ", history_file: " ++ describeOption quoted settings.historyFile ++
    ", use_color: " ++ describeBool settings.color ++ " \x7d"

end Reckoner
