import Reckoner.Session.Batch
import Reckoner.Session.Command
import Reckoner.Session.Interactive

/-!
# Invocations

What the program writes, the status it ends with and the history it keeps are a
function of what it finds when it starts: the arguments, the variables of the
environment, the files and the lines of its input.  The other side of it are the
libraries.
-/

namespace Reckoner

/-! ## Outcomes -/

/-- What the program leaves behind. -/
structure Outcome where
  /-- What it wrote. -/
  transcript : Transcript
  /-- The status it ended with. -/
  status : Nat
  /-- The name and the new text of the file it wrote, if it wrote one. -/
  saved : Option (String × String)
deriving DecidableEq, Repr

/-- An outcome after what has been written before. -/
def Outcome.after (outcome : Outcome) (written : Transcript) : Outcome :=
  { outcome with transcript := written ++ outcome.transcript }

/-- What the program finds when it starts. -/
structure Invocation where
  /-- The arguments, without the name of the program. -/
  arguments : List String
  /-- The variables of the environment. -/
  environment : String → Option String
  /-- The texts of the files. -/
  fileText : String → Except FileFault String
  /-- The lines of the input. -/
  input : List String

namespace Invocation

/-! ## Before the command -/

/-- The file of variables. -/
def variableFileName : String := ".env"

/-- The variables of the environment and of the file of variables. -/
def loaded (i : Invocation) (libraries : Libraries) : LoadedVariables :=
  libraries.load i.environment (i.fileText variableFileName)

/-- The value of a variable. -/
def lookup? (i : Invocation) (libraries : Libraries) : String → Option String :=
  (i.loaded libraries).valueOf?

/-- The settings that the variables give. -/
def settings (i : Invocation) (libraries : Libraries) : Except SettingsFault Settings :=
  Settings.ofLookup (i.lookup? libraries)

/-- The settings and the command; a fault in the settings comes first. -/
def plan (i : Invocation) (libraries : Libraries) : Except CommandFault (Settings × Command) :=
  match i.settings libraries with
  | .error fault => .error (.badSettings fault)
  | .ok settings => (Command.ofArguments i.arguments).map fun command => (settings, command)

/-- The records of what was found: of a file of variables that could not be
loaded, and of the settings and the arguments. -/
def openingRecords (i : Invocation) (libraries : Libraries) : List LogRecord :=
  let reading := match i.settings libraries with
    | .ok settings => [.settingsRead settings, .argumentsRead i.arguments]
    | .error _ => []
  ((i.loaded libraries).fault?.map .variablesNotLoaded).toList ++ reading

/-- What is written before the command: what the logger has to say when it is set
up, and the records of what was found. -/
def preamble (i : Invocation) (libraries : Libraries) : Transcript :=
  let logger := libraries.logger (i.lookup? libraries)
  logger.setUp ++ logger.logAll (i.openingRecords libraries)

/-- What a command works with under some settings. -/
def console (i : Invocation) (libraries : Libraries) (settings : Settings) : Console where
  settings := settings
  logger := libraries.logger (i.lookup? libraries)
  editor := libraries.editor
  terminal := i.lookup? libraries Console.terminalVariable

/-! ## The command -/

/-- The outcome of a fault: its description on the error output. -/
def refuse (fault : CommandFault) : Outcome :=
  ⟨.errLine ("Error: " ++ fault.describe), 1, none⟩

/-- The records at the beginning of an interactive session: of the session, and
of a file of its history that cannot be read. -/
def sessionRecords (i : Invocation) (settings : Settings) : List LogRecord :=
  let loading := match settings.historyFile with
    | some name =>
      match i.fileText name with
      | .ok _ => []
      | .error fault => [.historyNotLoaded name fault]
    | none => []
  .sessionBegins :: loading

/-- The name and the new text of the file that the history is kept in after a
session. -/
def savedHistory (i : Invocation) (console : Console) (session : Session) :
    Option (String × String) :=
  console.settings.historyFile.bind fun name =>
    (console.editor.historyText? (i.fileText name).toOption session.entered.reverse).map fun text =>
      (name, text)

/-- The outcome of a command. -/
def perform (i : Invocation) (console : Console) : Command → Outcome
  | .evaluate n expression =>
    ⟨report console.settings.color n expression, if isValid n expression then 0 else 1, none⟩
  | .batch n fileName =>
    let outcome := match i.fileText fileName with
      | .error fault => refuse (.badFile fault)
      | .ok text =>
        let (transcript, status) := Batch.run console.settings.color n text
        ⟨transcript, status, none⟩
    outcome.after (console.log (.batchBegins n fileName))
  | .interactive =>
    let (transcript, session) := Session.run console i.input
    ⟨console.logger.logAll (i.sessionRecords console.settings) ++ transcript, 0,
      i.savedHistory console session⟩

/-- The outcome of running the program. -/
def outcome (i : Invocation) (libraries : Libraries := .standard none) : Outcome :=
  let outcome := match i.plan libraries with
    | .error fault => refuse fault
    | .ok (settings, command) => i.perform (i.console libraries settings) command
  outcome.after (i.preamble libraries)

end Invocation

end Reckoner
