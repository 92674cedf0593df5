import Reckoner.Notation.Basic

/-!
# Settings

Three variables choose how the program behaves: the notation of interactive
sessions, the file that keeps their history, and whether faults are shown in
colour.  A variable that is blank counts as not set.
-/

namespace Reckoner

/-- How the program behaves. -/
structure Settings where
  /-- The notation of interactive sessions; without it the menu asks. -/
  fixedNotation : Option Notation
  /-- The file that keeps the history of interactive sessions. -/
  historyFile : Option String
  /-- Whether faults are shown in colour. -/
  color : Bool
deriving DecidableEq, Repr

/-- The reason why the variables give no settings. -/
inductive SettingsFault where
  /-- The value of the notation variable names no notation. -/
  | unknownNotation (name : String)
  /-- The value of a variable that switches something on or off is neither. -/
  | notASwitch (name value : String)
deriving DecidableEq, Repr

namespace Settings

/-! ## Variables -/

/-- The variable that fixes the notation. -/
def notationVariable : String := "CALC_NOTATION"

/-- The variable that names the history file. -/
def historyVariable : String := "CALC_HISTORY"

/-- The variable that switches colour. -/
def colorVariable : String := "CALC_COLOR"

/-- The variables that settings are read from. -/
def variableNames : List String := [notationVariable, historyVariable, colorVariable]

/-- The value of a variable, unless it is blank. -/
def valueOf? (lookup : String → Option String) (name : String) : Option String :=
  (lookup name).filter fun value => !isBlankText value

/-- The position of a switch; blanks around it and the case of its ASCII letters
do not matter. -/
def readSwitch? (value : String) : Option Bool :=
  match folded value with
  | "1" | "true" | "yes" | "on" => some true
  | "0" | "false" | "no" | "off" => some false
  | _ => none

/-! ## Reading the settings -/

/-- The notation that the notation variable fixes, if it is set. -/
def readNotation (lookup : String → Option String) : Except SettingsFault (Option Notation) :=
  match valueOf? lookup notationVariable with
  | none => .ok none
  | some value =>
    match Notation.ofName? value with
    | some n => .ok (some n)
    | none => .error (.unknownNotation value)

/-- Whether the colour variable asks for colour; it does when it is not set. -/
def readColor (lookup : String → Option String) : Except SettingsFault Bool :=
  match valueOf? lookup colorVariable with
  | none => .ok true
  | some value =>
    match readSwitch? value with
    | some color => .ok color
    | none => .error (.notASwitch colorVariable value)

/-- The settings that the variables give.  When two variables are wrong, the
notation is the one reported. -/
def ofLookup (lookup : String → Option String) : Except SettingsFault Settings := do
  let fixedNotation ← readNotation lookup
  let color ← readColor lookup
  return { fixedNotation, historyFile := valueOf? lookup historyVariable, color }

end Settings

namespace SettingsFault

/-- The explanation of a fault in the settings. -/
def message : SettingsFault → String
  | unknownNotation name =>
    "`" ++ Settings.notationVariable ++ "` is invalid: " ++ Notation.unknownMessage name
  | notASwitch name value => "`" ++ name ++ "` must be a boolean, got `" ++ value ++ "`"

end SettingsFault

end Reckoner
