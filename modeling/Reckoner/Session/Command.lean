import Reckoner.Settings.Basic
import Reckoner.Text.Quoted

/-!
# Commands

The arguments say what the program is to do: evaluate one expression, evaluate
the expressions of a file, or read expressions interactively.
-/

namespace Reckoner

/-- What the program is to do. -/
inductive Command where
  /-- Read expressions interactively. -/
  | interactive
  /-- Evaluate one expression. -/
  | evaluate (n : Notation) (expression : String)
  /-- Evaluate the expressions of a file. -/
  | batch (n : Notation) (fileName : String)
deriving DecidableEq, Repr

/-- The reason why a file cannot be read. -/
inductive FileFault where
  /-- The file is not there. -/
  | missing
  /-- The file may not be read. -/
  | forbidden
  /-- The name leads through something that is no directory. -/
  | notADirectory
  /-- The name is that of a directory. -/
  | directory
  /-- A part of the name is longer than a name can be. -/
  | nameTooLong
  /-- The bytes of the file are no text. -/
  | notText
deriving DecidableEq, Repr

/-- The reason why the program cannot do anything. -/
inductive CommandFault where
  /-- An argument is missing. -/
  | missingArgument (what : String)
  /-- The first argument is no mode of the program. -/
  | unknownMode (mode : String)
  /-- An argument names no notation. -/
  | unknownNotation (name : String)
  /-- The variables give no settings. -/
  | badSettings (fault : SettingsFault)
  /-- A file cannot be read. -/
  | badFile (fault : FileFault)
deriving DecidableEq, Repr

/-- A fault that the system reports: its number, its kind and what it says. -/
structure SystemFault where
  code : Nat
  kind : String
  message : String
deriving DecidableEq, Repr

namespace SystemFault

/-- The description of a fault of the system. -/
def describe (fault : SystemFault) : String :=
  "Os \x7b code: " ++ natText fault.code ++ ", kind: " ++ fault.kind ++ ", message: " ++
    quoted fault.message ++ " \x7d"

/-- The explanation of a fault of the system, with its number. -/
def explain (fault : SystemFault) : String :=
  fault.message ++ " (os error " ++ natText fault.code ++ ")"

end SystemFault

namespace FileFault

/-- What the system reports of a file that cannot be read.  It has no fault to
report when only the bytes are wrong. -/
def system? : FileFault → Option SystemFault
  | missing => some ⟨2, "NotFound", "No such file or directory"⟩
  | forbidden => some ⟨13, "PermissionDenied", "Permission denied"⟩
  | notADirectory => some ⟨20, "NotADirectory", "Not a directory"⟩
  | directory => some ⟨21, "IsADirectory", "Is a directory"⟩
  | nameTooLong => some ⟨36, "InvalidFilename", "File name too long"⟩
  | notText => none

/-- What is said of bytes that are no text. -/
def notTextMessage : String := "stream did not contain valid UTF-8"

/-- The description of a file that cannot be read. -/
def describe (fault : FileFault) : String :=
  match fault.system? with
  | some system => system.describe
  | none => "Error \x7b kind: InvalidData, message: " ++ quoted notTextMessage ++ " \x7d"

/-- The explanation of a file that cannot be read. -/
def message (fault : FileFault) : String :=
  match fault.system? with
  | some system => system.explain
  | none => notTextMessage

end FileFault

namespace CommandFault

/-- The description of a fault in the settings. -/
def describeSettings : SettingsFault → String
  | .unknownNotation name => "Notation(UnknownNotation(" ++ quoted name ++ "))"
  | .notASwitch name value => "NotABool(" ++ quoted name ++ ", " ++ quoted value ++ ")"

/-- The description of a fault. -/
def describe : CommandFault → String
  | missingArgument what => "MissingArgument(" ++ quoted what ++ ")"
  | unknownMode mode => "UnknownMode(" ++ quoted mode ++ ")"
  | unknownNotation name => "UnknownNotation(" ++ quoted name ++ ")"
  | badSettings fault => describeSettings fault
  | badFile fault => fault.describe

end CommandFault

namespace Command

/-! ## Arguments -/

/-- The notation and the argument after it; `what` says what that argument is. -/
def readOperands (what : String) (arguments : List String) :
    Except CommandFault (Notation × String) :=
  match arguments with
  | [] => .error (.missingArgument "notation")
  | name :: rest =>
    match Notation.ofName? name, rest with
    | none, _ => .error (.unknownNotation name)
    | some _, [] => .error (.missingArgument what)
    | some n, operand :: _ => .ok (n, operand)

/-- The command that the arguments give; further arguments do not matter. -/
def ofArguments : List String → Except CommandFault Command
  | [] => .ok .interactive
  | mode :: rest =>
    if mode = "-i" then .ok .interactive
    else if mode = "-e" then
      (readOperands "expression" rest).map fun (n, expression) => .evaluate n expression
    else if mode = "-f" then
      (readOperands "file name" rest).map fun (n, fileName) => .batch n fileName
    else .error (.unknownMode mode)

/-- The file that a command reads, if it reads one. -/
def fileName? (settings : Settings) : Command → Option String
  | interactive => settings.historyFile
  | evaluate _ _ => none
  | batch _ fileName => some fileName

end Command

end Reckoner
