import Reckoner.Notation.Basic

/-!
# The notation menu

The menu numbers the notations from one on, and leaving has a number of its own.
A choice is read as an integer between two bounds.
-/

namespace Reckoner

/-! ## Reading a bounded integer -/

/-- The reason why a choice is refused. -/
inductive ChoiceFault where
  /-- The text, kept as it was typed, is not a 64-bit integer. -/
  | notAnInteger (text : String)
  /-- The integer is below the least one allowed. -/
  | tooSmall (least : Int)
  /-- The integer is above the greatest one allowed. -/
  | tooLarge (greatest : Int)
deriving DecidableEq, Repr

namespace ChoiceFault

/-- The explanation of a refused choice. -/
def message : ChoiceFault → String
  | notAnInteger _ => "The input could not be converted to an integer"
  | tooSmall least => "The input is not allowed to be less than " ++ intText least
  | tooLarge greatest =>
    "The input is not allowed to be more than " ++ intText greatest

end ChoiceFault

/-- The signed 64-bit integer that a text stands for, apart from blanks around
it. -/
def readInt64? (text : String) : Option Int :=
  (readInt? (trimChars text.toList)).filter fun n => (Number.ofInt? n).isSome

/-- Reads an integer between two bounds.  A value below the least is refused
before one above the greatest. -/
def readChoice (text : String) (least greatest : Int) : Except ChoiceFault Int :=
  match readInt64? text with
  | none => .error (.notAnInteger text)
  | some n =>
    if n < least then .error (.tooSmall least)
    else if greatest < n then .error (.tooLarge greatest)
    else .ok n

/-! ## The menu -/

/-- What a line of the menu stands for. -/
inductive MenuChoice where
  /-- Evaluating expressions of a notation. -/
  | evaluate (n : Notation)
  /-- Leaving. -/
  | quit
deriving DecidableEq, Repr

namespace Menu

/-- The number that stands for leaving. -/
def quitNumber : Nat := 5

/-- The choice a text stands for. -/
def read (text : String) : Except ChoiceFault MenuChoice :=
  match readChoice text 1 quitNumber with
  | .error fault => .error fault
  | .ok n =>
    match Notation.ofNumber? n with
    | some n => .ok (.evaluate n)
    | none => .ok .quit

/-- The width that names are filled up to. -/
def nameWidth : Nat := 22

/-- A text with blanks after it, up to a width. -/
def padded (width : Nat) (text : String) : String :=
  text ++ String.ofList (List.replicate (width - text.length) ' ')

/-- The line of the menu for a notation and its number. -/
def entry (n : Notation) (number : Nat) : String :=
  natText number ++ ") " ++ padded nameWidth n.name ++ "e.g. " ++ n.sample ++ "\n"

/-- The menu: a question, a line for each notation and one for leaving. -/
def text : String :=
  "What kind of mathematical expressions do you want to parse?\n" ++
    String.join (Notation.all.zipIdx.map fun (n, i) => entry n (i + 1)) ++
    natText quitNumber ++ ") quit"

/-- The request for a choice. -/
def prompt : String := "Enter an integer between 1 and " ++ natText quitNumber ++ "> "

end Menu

end Reckoner
